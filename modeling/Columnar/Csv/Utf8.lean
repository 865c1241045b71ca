/-!
# Valid UTF-8

How far a byte sequence is valid UTF-8, for reporting where a field stops being text.

A character is written as a lead byte and up to three continuation bytes.  The lead byte
fixes how many follow and narrows the range of the first of them, which rules out
overlong forms, surrogates and numbers beyond the code space.

## Main definitions

* `Utf8.tails` — the ranges of the bytes that must follow a lead byte.
* `Utf8.validLength` — the length of the longest valid beginning.
-/

namespace Columnar

namespace Utf8

/-- The ranges of the bytes that must follow a lead byte; none if the byte cannot lead. -/
def tails (lead : UInt8) : Option (List (UInt8 × UInt8)) :=
  let tail : UInt8 × UInt8 := (0x80, 0xBF)
  if lead ≤ 0x7F then some []
  else if 0xC2 ≤ lead ∧ lead ≤ 0xDF then some [tail]
  else if lead = 0xE0 then some [(0xA0, 0xBF), tail]
  else if lead = 0xED then some [(0x80, 0x9F), tail]
  else if 0xE1 ≤ lead ∧ lead ≤ 0xEF then some [tail, tail]
  else if lead = 0xF0 then some [(0x90, 0xBF), tail, tail]
  else if 0xF1 ≤ lead ∧ lead ≤ 0xF3 then some [tail, tail, tail]
  else if lead = 0xF4 then some [(0x80, 0x8F), tail, tail]
  else none

/-- The length of the longest beginning that consists of whole characters, where `done`
bytes of characters and then `pending` bytes of an unfinished one came before, and
`due` are the ranges of the bytes still missing from that one. -/
def validLengthFrom (done pending : Nat) (due : List (UInt8 × UInt8)) : List UInt8 → Nat
  | [] => done
  | b :: bytes =>
    match due with
    | (low, high) :: due =>
      if low ≤ b ∧ b ≤ high then
        match due with
        | [] => validLengthFrom (done + pending + 1) 0 [] bytes
        | due => validLengthFrom done (pending + 1) due bytes
      else done
    | [] =>
      match tails b with
      | none => done
      | some [] => validLengthFrom (done + 1) 0 [] bytes
      | some due => validLengthFrom done 1 due bytes

/-- The length of the longest beginning that is valid UTF-8. -/
def validLength (bytes : List UInt8) : Nat := validLengthFrom 0 0 [] bytes

end Utf8

end Columnar
