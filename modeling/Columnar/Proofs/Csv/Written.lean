import Columnar.Csv.Writer
import Columnar.Proofs.Rows

/-!
# Reading what was written

A written document is read byte by byte, and at each byte the reader can only go one way.  A
quote opens a field.  Inside, every byte but the quote is kept, and a quote comes with another
one, so that the two of them make one that is kept.  The next lone quote is the closing one, and
after it comes the delimiter or a line feed.  For this the delimiter must be neither of the two,
and the fields may hold what they like: they are never looked at outside quotes.

A record without fields is written as an empty line, which is no record to the reader.  A record
of one empty field is not: it is written as two quotes.

## Main definitions

* `Csv.Reader.IsAt` — where a reader is, and what it has read, without the positions it counts.
* `Csv.RawRecord.Holds` — a record as it was read, and the texts whose bytes it holds.
* `Csv.nonblank` — the records that have fields.

## Main results

* `Csv.Reader.IsAt.read_field`, `Csv.Reader.IsAt.read_record`, `Csv.Reader.IsAt.read_records` — a
  reader goes through a written field, a record, and any number of records.
* `Csv.readRaw_write` — the records of a written document, as bytes.
* `Csv.read_write` — **a written document is read back**, but for its empty lines.
* `Csv.read_write_error` — or refused, if a record has another length than the header.
-/

namespace Columnar

namespace Csv

/-! ### What is written -/

theorem writeRecord_singleton (delimiter : UInt8) (text : String) :
    writeRecord delimiter [text] = writeField text ++ [10] := by
  rw [writeRecord, List.map_singleton, List.intercalate_singleton]

theorem writeRecord_cons_cons (delimiter : UInt8) (text next : String) (texts : List String) :
    writeRecord delimiter (text :: next :: texts)
      = writeField text ++ delimiter :: writeRecord delimiter (next :: texts) := by
  simp only [writeRecord, List.map_cons, List.intercalate_cons_cons, List.append_assoc,
    List.cons_append, List.nil_append]

/-- The records that have fields.  The others are written as empty lines. -/
def nonblank (records : List (List String)) : List (List String) :=
  records.filter fun record => !record.isEmpty

theorem nonblank_cons (record : List String) (records : List (List String)) :
    nonblank (record :: records) = nonblank [record] ++ nonblank records :=
  List.filter_append [record] records

theorem mem_nonblank {record : List String} {records : List (List String)} :
    record ∈ nonblank records ↔ record ∈ records ∧ record ≠ [] := by
  simp [nonblank]

/-- Records of one length that is not zero are none of them blank. -/
theorem nonblank_of_length {records : List (List String)} {width : Nat} (hpos : 0 < width)
    (h : ∀ record ∈ records, record.length = width) : nonblank records = records := by
  refine List.filter_eq_self.2 fun record hrecord => ?_
  have hlength : record.length ≠ 0 := by
    rw [h record hrecord]
    exact Nat.ne_of_gt hpos
  simpa using hlength

/-- Bytes that are kept one after the other. -/
theorem toList_foldl_push (bytes : List UInt8) (field : ByteArray) :
    (bytes.foldl ByteArray.push field).data.toList = field.data.toList ++ bytes := by
  induction bytes generalizing field with
  | nil => exact (List.append_nil _).symm
  | cons b bytes ih =>
    rw [List.foldl_cons, ih, ByteArray.data_push, Array.toList_push, List.append_assoc]
    rfl

theorem foldl_push_toUTF8 (text : String) :
    text.toUTF8.data.toList.foldl ByteArray.push .empty = text.toUTF8 := by
  have hbytes := toList_foldl_push text.toUTF8.data.toList .empty
  exact ByteArray.ext (Array.toList_inj.1 hbytes)

/-! ### The state of a reader -/

namespace Reader

/-- Where a reader is, the bytes of the field and the fields of the record that it has read so
far, and the records that it has finished. -/
structure IsAt (r : Reader) (mode : Mode) (field : ByteArray) (fields : List ByteArray)
    (records : List (List ByteArray)) : Prop where
  mode_eq : r.mode = mode
  field_eq : r.field = field
  fields_eq : r.fields.toList = fields
  records_eq : r.records.toList.map (·.fields.toList) = records

variable {r : Reader} {mode : Mode} {field : ByteArray} {fields : List ByteArray}
  {records : List (List ByteArray)} {delimiter b : UInt8}

theorem isAt_start (skipped : Nat) : (start skipped).IsAt .betweenRecords .empty [] [] :=
  ⟨rfl, rfl, rfl, rfl⟩

namespace IsAt

theorem advance (h : r.IsAt mode field fields records) (b : UInt8) :
    (r.advance b).IsAt mode field fields records :=
  ⟨h.mode_eq, h.field_eq, h.fields_eq, h.records_eq⟩

theorem withMode (h : r.IsAt mode field fields records) (mode' : Mode) :
    ({ r with mode := mode' } : Reader).IsAt mode' field fields records :=
  ⟨rfl, h.field_eq, h.fields_eq, h.records_eq⟩

theorem keep (h : r.IsAt mode field fields records) (b : UInt8) (mode' : Mode) :
    (r.keep b mode').IsAt mode' (field.push b) fields records :=
  ⟨rfl, congrArg (·.push b) h.field_eq, h.fields_eq, h.records_eq⟩

theorem endField (h : r.IsAt mode field fields records) :
    r.endField.IsAt .fieldStart .empty (fields ++ [field]) records := by
  refine ⟨rfl, rfl, ?_, h.records_eq⟩
  rw [Reader.endField, Array.toList_push, h.fields_eq, h.field_eq]

theorem endRecord (h : r.IsAt mode field fields records) :
    r.endRecord.IsAt .betweenRecords .empty [] (records ++ [fields ++ [field]]) := by
  refine ⟨rfl, rfl, rfl, ?_⟩
  rw [Reader.endRecord, Array.toList_push, List.map_append, h.records_eq, List.map_singleton,
    Array.toList_push, h.fields_eq, h.field_eq]

/-! ### One byte -/

theorem step_open (h : r.IsAt mode field fields records)
    (hmode : mode = .betweenRecords ∨ mode = .fieldStart) :
    (r.step delimiter quote).IsAt .quoted field fields records := by
  have hadvance := h.advance quote
  have hopened := hadvance.withMode .quoted
  rcases hmode with rfl | rfl <;> simp only [step, hadvance.mode_eq] <;> exact hopened

theorem step_quoted (h : r.IsAt .quoted field fields records) (hb : b ≠ quote) :
    (r.step delimiter b).IsAt .quoted (field.push b) fields records := by
  have hadvance := h.advance b
  simp only [step, hadvance.mode_eq, if_neg hb]
  exact hadvance.keep b .quoted

theorem step_quote (h : r.IsAt .quoted field fields records) :
    (r.step delimiter quote).IsAt .afterQuote field fields records := by
  have hadvance := h.advance quote
  simp only [step, hadvance.mode_eq, if_true]
  exact hadvance.withMode .afterQuote

theorem step_second_quote (h : r.IsAt .afterQuote field fields records) :
    (r.step delimiter quote).IsAt .quoted (field.push quote) fields records := by
  have hadvance := h.advance quote
  simp only [step, hadvance.mode_eq, if_true]
  exact hadvance.keep quote .quoted

theorem step_delimiter (h : r.IsAt .afterQuote field fields records) (hd : delimiter ≠ quote) :
    (r.step delimiter delimiter).IsAt .fieldStart .empty (fields ++ [field]) records := by
  have hadvance := h.advance delimiter
  simp only [step, hadvance.mode_eq, if_neg hd, plain, if_true]
  exact hadvance.endField

theorem step_lineFeed (h : r.IsAt .afterQuote field fields records) (hd : delimiter ≠ 10) :
    (r.step delimiter 10).IsAt .betweenRecords .empty [] (records ++ [fields ++ [field]]) := by
  have hadvance := h.advance 10
  have hline : (10 : UInt8) ≠ quote := by decide
  have hends : endsRecord 10 = true := rfl
  simp only [step, hadvance.mode_eq, if_neg hline, plain, if_neg hd.symm, hends, if_true]
  exact hadvance.endRecord

/-- An empty line is no record. -/
theorem step_blank (h : r.IsAt .betweenRecords field fields records) :
    (r.step delimiter 10).IsAt .betweenRecords field fields records := by
  have hadvance := h.advance 10
  have hends : endsRecord 10 = true := rfl
  simp only [step, hadvance.mode_eq, hends, if_true]
  exact hadvance

/-! ### Fields and records -/

/-- Inside quotes all bytes are kept, and one of two quotes. -/
theorem read_doubled (h : r.IsAt .quoted field fields records) (bytes : List UInt8) :
    ((doubleQuotes bytes).foldl (step delimiter) r).IsAt .quoted (bytes.foldl .push field) fields
      records := by
  induction bytes generalizing r field with
  | nil => exact h
  | cons b bytes ih =>
    rw [doubleQuotes]
    split
    · next hb =>
      subst hb
      exact ih h.step_quote.step_second_quote
    · next hb => exact ih (h.step_quoted hb)

/-- A field is read up to its closing quote, which may still turn out to be another one. -/
theorem read_field (h : r.IsAt mode .empty fields records)
    (hmode : mode = .betweenRecords ∨ mode = .fieldStart) (text : String) :
    ((writeField text).foldl (step delimiter) r).IsAt .afterQuote text.toUTF8 fields records := by
  have hbody : ((doubleQuotes text.toUTF8.data.toList).foldl (step delimiter)
      (r.step delimiter quote)).IsAt .quoted (text.toUTF8.data.toList.foldl .push .empty) fields
        records := (h.step_open hmode).read_doubled _
  rw [foldl_push_toUTF8] at hbody
  rw [writeField, List.cons_append, List.foldl_cons, List.foldl_append]
  exact hbody.step_quote

/-- The fields of a record are read one after the other, up to the line feed. -/
theorem read_fields (hquote : delimiter ≠ quote) (hline : delimiter ≠ 10) (text : String)
    (texts : List String) (h : r.IsAt mode .empty fields records)
    (hmode : mode = .betweenRecords ∨ mode = .fieldStart) :
    ((writeRecord delimiter (text :: texts)).foldl (step delimiter) r).IsAt .betweenRecords .empty
      [] (records ++ [fields ++ (text :: texts).map String.toUTF8]) := by
  have hfield : ((writeField text).foldl (step delimiter) r).IsAt .afterQuote text.toUTF8 fields
      records := h.read_field hmode text
  induction texts generalizing r mode fields text with
  | nil =>
    rw [writeRecord_singleton, List.foldl_append]
    exact hfield.step_lineFeed hline
  | cons next texts ih =>
    rw [writeRecord_cons_cons, List.foldl_append, List.foldl_cons]
    have hnext := hfield.step_delimiter hquote
    have hrest := ih next hnext (.inr rfl) (hnext.read_field (.inr rfl) next)
    rwa [List.append_assoc] at hrest

/-- A record is read as a whole; one without fields is none. -/
theorem read_record (hquote : delimiter ≠ quote) (hline : delimiter ≠ 10)
    (h : r.IsAt .betweenRecords .empty [] records) (record : List String) :
    ((writeRecord delimiter record).foldl (step delimiter) r).IsAt .betweenRecords .empty []
      (records ++ (nonblank [record]).map (·.map String.toUTF8)) := by
  cases record with
  | nil =>
    rw [show nonblank [[]] = [] from rfl, List.map_nil, List.append_nil]
    exact h.step_blank
  | cons text texts => exact h.read_fields hquote hline text texts (.inl rfl)

theorem read_records (hquote : delimiter ≠ quote) (hline : delimiter ≠ 10)
    (h : r.IsAt .betweenRecords .empty [] records) (written : List (List String)) :
    ((written.flatMap (writeRecord delimiter)).foldl (step delimiter) r).IsAt .betweenRecords
      .empty [] (records ++ (nonblank written).map (·.map String.toUTF8)) := by
  induction written generalizing r records with
  | nil =>
    rw [show nonblank [] = [] from rfl, List.map_nil, List.append_nil]
    exact h
  | cons record written ih =>
    rw [List.flatMap_cons, List.foldl_append, nonblank_cons, List.map_append, ← List.append_assoc]
    exact ih (h.read_record hquote hline record)

end IsAt

theorem IsAt.finish_eq (h : r.IsAt .betweenRecords field fields records) :
    r.finish.toList.map (·.fields.toList) = records := by
  rw [finish, h.mode_eq]
  exact h.records_eq

end Reader

/-! ### The records of a document -/

/-- A written document begins with a quote, so that no part of it is taken for a mark. -/
theorem markLength_write {delimiter : UInt8} {text : String} {texts : List String}
    (records : List (List String)) :
    markLength (write delimiter ⟨text :: texts, records⟩) = 0 := by
  obtain ⟨bytes, hbytes⟩ : ∃ bytes, writeRecord delimiter (text :: texts) = quote :: bytes := by
    cases texts with
    | nil => exact ⟨_, writeRecord_singleton delimiter text⟩
    | cons next texts => exact ⟨_, writeRecord_cons_cons delimiter text next texts⟩
  have hwrite : write delimiter ⟨text :: texts, records⟩
      = ⟨(quote :: (bytes ++ records.flatMap (writeRecord delimiter))).toArray⟩ := by
    rw [write, List.flatMap_cons, hbytes, List.cons_append]
  rw [markLength, hwrite, ByteArray.data_extract, if_neg]
  intro hmark
  have hfirst := congrArg (·[0]?) hmark
  simp [quote] at hfirst

/-- The records of a written document, as bytes. -/
theorem readRaw_write {delimiter : UInt8} (hquote : delimiter ≠ quote) (hline : delimiter ≠ 10)
    {header : List String} (hheader : header ≠ []) (records : List (List String)) :
    (readRaw delimiter (write delimiter ⟨header, records⟩)).toList.map (·.fields.toList)
      = header.map String.toUTF8 :: (nonblank records).map (·.map String.toUTF8) := by
  obtain ⟨text, texts, rfl⟩ := List.exists_cons_of_ne_nil hheader
  rw [readRaw, markLength_write, List.drop_zero]
  exact ((Reader.isAt_start 0).read_records hquote hline ((text :: texts) :: records)).finish_eq

/-! ### Records as text -/

/-- A record as it was read holds the bytes of texts. -/
def RawRecord.Holds (raw : RawRecord) (texts : List String) : Prop :=
  raw.fields.toList = texts.map String.toUTF8

theorem RawRecord.Holds.size_eq {raw : RawRecord} {texts : List String} (h : raw.Holds texts) :
    raw.fields.size = texts.length := by
  rw [← Array.length_toList, h, List.length_map]

theorem decodeField_toUTF8 (position : Position) (index : Nat) (text : String) :
    decodeField position index text.toUTF8 = .ok text := by
  have htext : String.fromUTF8? text.toUTF8 = some text := dif_pos text.isValidUTF8
  rw [decodeField, htext]

section

variable {raw : RawRecord} {texts : List String} {raws : List RawRecord}
  {records : List (List String)} {width : Nat}

theorem RawRecord.Holds.decode_eq (h : raw.Holds texts) : decode raw = .ok texts := by
  have hall : ∀ entry ∈ texts.zipIdx,
      decodeField raw.position entry.2 entry.1.toUTF8 = .ok entry.1 :=
    fun entry _ => decodeField_toUTF8 raw.position entry.2 entry.1
  have htexts := mapM_eq_ok_map hall
  rw [List.zipIdx_map_fst] at htexts
  rw [decode, h, List.zipIdx_map, List.mapM_map]
  exact htexts

theorem RawRecord.Holds.decodeWidth_eq (h : raw.Holds texts) (hwidth : texts.length = width) :
    decodeWidth width raw = .ok texts := by
  rw [decodeWidth, h.size_eq, if_pos hwidth, h.decode_eq]

theorem RawRecord.Holds.decodeWidth_error (h : raw.Holds texts) (hwidth : texts.length ≠ width) :
    decodeWidth width raw = .error (.unequalLengths raw.position width texts.length) := by
  rw [decodeWidth, h.size_eq, if_neg hwidth]

/-- Records of the width that is asked for are all read. -/
theorem mapM_decodeWidth_ok (h : List.Forall₂ RawRecord.Holds raws records)
    (hwidth : ∀ record ∈ records, record.length = width) :
    raws.mapM (decodeWidth width) = .ok records := by
  induction h with
  | nil => rfl
  | cons hraw _ ih =>
    have hrest := ih fun record hrecord => hwidth record (List.mem_cons_of_mem _ hrecord)
    rw [List.mapM_cons, hraw.decodeWidth_eq (hwidth _ List.mem_cons_self), hrest]
    rfl

/-- The first record of another width is an error. -/
theorem mapM_decodeWidth_error (h : List.Forall₂ RawRecord.Holds raws records)
    {record : List String} (hfirst : records.find? (·.length != width) = some record) :
    ∃ position, raws.mapM (decodeWidth width)
      = .error (.unequalLengths position width record.length) := by
  induction h with
  | nil => cases hfirst
  | @cons raw texts _ _ hraw _ ih =>
    rw [List.mapM_cons]
    by_cases hwidth : texts.length = width
    · rw [List.find?_cons_of_neg (by simpa using hwidth)] at hfirst
      obtain ⟨position, hrest⟩ := ih hfirst
      refine ⟨position, ?_⟩
      rw [hraw.decodeWidth_eq hwidth, hrest]
      rfl
    · rw [List.find?_cons_of_pos (by simpa using hwidth)] at hfirst
      obtain rfl := Option.some.inj hfirst
      refine ⟨raw.position, ?_⟩
      rw [hraw.decodeWidth_error hwidth]
      rfl

end

variable {delimiter : UInt8} {header : List String} {records : List (List String)}

/-- A written document is taken apart into its header and its records. -/
theorem exists_readRaw_write (hquote : delimiter ≠ quote) (hline : delimiter ≠ 10)
    (hheader : header ≠ []) (records : List (List String)) :
    ∃ first raws, (readRaw delimiter (write delimiter ⟨header, records⟩)).toList = first :: raws ∧
      first.Holds header ∧ List.Forall₂ RawRecord.Holds raws (nonblank records) := by
  obtain ⟨first, raws, hraw, hfirst, hraws⟩ :=
    List.map_eq_cons_iff.1 (readRaw_write hquote hline hheader records)
  refine ⟨first, raws, hraw, hfirst, ?_⟩
  rw [← List.forall₂_eq_eq_eq, List.forall₂_map_left_iff, List.forall₂_map_right_iff] at hraws
  exact hraws

/-- **A written document is read back**, but for its empty lines. -/
theorem read_write (hquote : delimiter ≠ quote) (hline : delimiter ≠ 10) (hheader : header ≠ [])
    (hwidth : ∀ record ∈ nonblank records, record.length = header.length) :
    read delimiter (write delimiter ⟨header, records⟩) = .ok ⟨header, nonblank records⟩ := by
  obtain ⟨first, raws, hraw, hfirst, hraws⟩ := exists_readRaw_write hquote hline hheader records
  rw [read, hraw]
  simp only
  rw [hfirst.decode_eq, hfirst.size_eq, mapM_decodeWidth_ok hraws hwidth]
  rfl

/-- If a record has another length than the header, the first that has is an error. -/
theorem read_write_error (hquote : delimiter ≠ quote) (hline : delimiter ≠ 10)
    (hheader : header ≠ []) {record : List String}
    (hodd : (nonblank records).find? (·.length != header.length) = some record) :
    ∃ position, read delimiter (write delimiter ⟨header, records⟩)
      = .error (.unequalLengths position header.length record.length) := by
  obtain ⟨first, raws, hraw, hfirst, hraws⟩ := exists_readRaw_write hquote hline hheader records
  obtain ⟨position, herror⟩ := mapM_decodeWidth_error hraws hodd
  refine ⟨position, ?_⟩
  rw [read, hraw]
  simp only
  rw [hfirst.decode_eq, hfirst.size_eq, herror]
  rfl

end Csv

end Columnar
