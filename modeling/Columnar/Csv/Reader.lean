import Columnar.Failure
import Columnar.Csv.Utf8

/-!
# Reading delimited text

A document is a sequence of records, each a sequence of fields separated by the
delimiter and ended by a line feed or a carriage return.  Empty lines are no records.
A field that begins with a quote extends to the next lone quote, delimiters and line
ends included, and two quotes inside it stand for one; what follows the closing quote is
taken as it is.  A quote anywhere else is an ordinary character.  A byte order mark at
the start of the document is dropped.

The document is read byte by byte.  Each byte moves a reader from one state to the next
(`Reader.step`), so reading a document is a fold over its bytes, and reading one document
after another is reading their concatenation.

## Main definitions

* `Csv.Reader`, `Csv.Reader.step` — the reader and what one byte does to it.
* `Csv.readRaw` — the records of a document, as bytes.
* `Csv.read` — the same as text, all records of one length.
-/

namespace Columnar

namespace Csv

/-- The quote. -/
def quote : UInt8 := 34

/-- The bytes that end a record: the line feed and the carriage return. -/
def endsRecord (b : UInt8) : Bool := b == 10 || b == 13

/-! ### The reader -/

/-- A record as it was read. -/
structure RawRecord where
  /-- Where the reader stood when it began with the record. -/
  position : Position
  /-- The bytes of each field. -/
  fields : Array ByteArray

/-- Where in a record the reader is. -/
inductive Mode where
  /-- Before the first field of a record. -/
  | betweenRecords
  /-- At the start of a field. -/
  | fieldStart
  /-- In a field, outside quotes. -/
  | unquoted
  /-- In a field, inside quotes. -/
  | quoted
  /-- After a quote inside quotes: it closes them unless another one follows. -/
  | afterQuote
  deriving DecidableEq, Repr

/-- A reader, part way through a document. -/
structure Reader where
  /-- Where in a record it is. -/
  mode : Mode
  /-- The bytes of the field being read. -/
  field : ByteArray
  /-- The finished fields of the record being read. -/
  fields : Array ByteArray
  /-- The finished records. -/
  records : Array RawRecord
  /-- Where the record being read began. -/
  begun : Position
  /-- The current line. -/
  line : Nat
  /-- The bytes read so far. -/
  byte : Nat

namespace Reader

/-- A reader at the start of a document, `skipped` bytes of which are dropped. -/
def start (skipped : Nat) : Reader where
  mode := .betweenRecords
  field := .empty
  fields := #[]
  records := #[]
  begun := ⟨0, 1, 0⟩
  line := 1
  byte := skipped

/-- Counts a byte as read. -/
def advance (r : Reader) (b : UInt8) : Reader :=
  { r with line := if b = 10 then r.line + 1 else r.line, byte := r.byte + 1 }

/-- Adds a byte to the field. -/
def keep (r : Reader) (b : UInt8) (mode : Mode) : Reader :=
  { r with field := r.field.push b, mode }

/-- Finishes the field; another one follows. -/
def endField (r : Reader) : Reader :=
  { r with field := .empty, fields := r.fields.push r.field, mode := .fieldStart }

/-- Finishes the field and the record.  The next record begins here. -/
def endRecord (r : Reader) : Reader :=
  { r with
    mode := .betweenRecords
    field := .empty
    fields := #[]
    records := r.records.push ⟨r.begun, r.fields.push r.field⟩
    begun := ⟨r.begun.record + 1, r.line, r.byte⟩ }

/-- A byte of a field outside quotes. -/
def plain (delimiter b : UInt8) (r : Reader) : Reader :=
  if b = delimiter then r.endField
  else if endsRecord b then r.endRecord
  else r.keep b .unquoted

/-- A byte at the start of a field. -/
def atFieldStart (delimiter b : UInt8) (r : Reader) : Reader :=
  if b = quote then { r with mode := .quoted } else r.plain delimiter b

/-- What one byte does to a reader. -/
def step (delimiter : UInt8) (r : Reader) (b : UInt8) : Reader :=
  let r := r.advance b
  match r.mode with
  | .betweenRecords => if endsRecord b then r else r.atFieldStart delimiter b
  | .fieldStart => r.atFieldStart delimiter b
  | .unquoted => r.plain delimiter b
  | .quoted => if b = quote then { r with mode := .afterQuote } else r.keep b .quoted
  | .afterQuote => if b = quote then r.keep b .quoted else r.plain delimiter b

/-- The records when the document ends: a record that was begun is complete. -/
def finish (r : Reader) : Array RawRecord :=
  match r.mode with
  | .betweenRecords => r.records
  | _ => r.endRecord.records

end Reader

/-- The length of the byte order mark at the start of a document, if it has one. -/
def markLength (document : ByteArray) : Nat :=
  if (document.extract 0 3).data = #[0xEF, 0xBB, 0xBF] then 3 else 0

/-- The records of a document. -/
def readRaw (delimiter : UInt8) (document : ByteArray) : Array RawRecord :=
  let mark := markLength document
  ((document.data.toList.drop mark).foldl (Reader.step delimiter) (.start mark)).finish

/-! ### Records as text -/

/-- A field as text. -/
def decodeField (position : Position) (index : Nat) (field : ByteArray) :
    Except Error String :=
  match String.fromUTF8? field with
  | some text => .ok text
  | none => .error (.invalidText position index (Utf8.validLength field.data.toList))

/-- The fields of a record as text, from the first that is not. -/
def decode (record : RawRecord) : Except Error (List String) :=
  record.fields.toList.zipIdx.mapM fun (field, i) => decodeField record.position i field

/-- The fields of a record that must have a given number of them. -/
def decodeWidth (width : Nat) (record : RawRecord) : Except Error (List String) :=
  if record.fields.size = width then decode record
  else .error (.unequalLengths record.position width record.fields.size)

/-- A document with a header: the names of its columns, and the records under them. -/
structure Document where
  /-- The fields of the first record. -/
  header : List String
  /-- The records after it, each as long as the header. -/
  records : List (List String)
  deriving DecidableEq, Repr

/-- Reads a document.  The first record is the header, and all others must be as long.
An empty document has an empty header. -/
def read (delimiter : UInt8) (document : ByteArray) : Except Error Document :=
  match (readRaw delimiter document).toList with
  | [] => .ok ⟨[], []⟩
  | first :: rest => do
    let header ← decode first
    let records ← rest.mapM (decodeWidth first.fields.size)
    .ok ⟨header, records⟩

end Csv

end Columnar
