import Columnar.Csv.Reader

/-!
# Writing delimited text

A document written so that it can be read back whatever its fields hold: every field
stands in quotes, a quote inside it is doubled, and every record ends in a line feed.

## Main definitions

* `Csv.writeField`, `Csv.writeRecord` — a field in quotes, and a line of them.
* `Csv.write` — a header and the records under it.
-/

namespace Columnar

namespace Csv

/-- The bytes of a field, each quote doubled. -/
def doubleQuotes : List UInt8 → List UInt8
  | [] => []
  | b :: bytes => if b = quote then quote :: quote :: doubleQuotes bytes else b :: doubleQuotes bytes

/-- A field in quotes. -/
def writeField (field : String) : List UInt8 :=
  quote :: doubleQuotes field.toUTF8.data.toList ++ [quote]

/-- The fields of a record, joined by the delimiter and ended by a line feed. -/
def writeRecord (delimiter : UInt8) (record : List String) : List UInt8 :=
  [delimiter].intercalate (record.map writeField) ++ [10]

/-- A document: the header, and the records under it. -/
def write (delimiter : UInt8) (document : Document) : ByteArray :=
  ⟨((document.header :: document.records).flatMap (writeRecord delimiter)).toArray⟩

end Csv

end Columnar
