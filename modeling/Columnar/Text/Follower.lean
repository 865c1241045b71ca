import Columnar.Text.Character

/-!
# What stands behind a character

Some characters are drawn together with those behind them, and take fewer columns, or
more, than they would alone: emoji with the marks, skin tones, joiners and further emoji
behind them, pairs of letters that make a flag, and ligatures of a few scripts.  A text is
therefore measured from its end, and each character is told what stands behind it.

A follower may hold back a column, where the character before it decides whether the
column is taken: it is added with that character, unless the two are drawn as one.

## Main definitions

* `Text.Opening`, `Text.Style`, `Text.Follower` — what stands behind a character, as far as
  it matters to its width.
* `Text.Opening.held` — the columns that a follower holds back.
* `Text.Opening.merge?` — what a character adds that is drawn together with its follower.
* `Text.Follower.before` — what a character adds before a follower, and the follower that
  the two are.
-/

namespace Columnar

namespace Text

/-- How the part of a text that matters to the character before it opens. -/
inductive Opening
  /-- With nothing that matters. -/
  | other
  /-- With an Arabic alef, perhaps behind invisible marks. -/
  | alef
  /-- With the Hebrew letter lamed, and perhaps a joiner before it. -/
  | lamed (joined : Bool)
  /-- With the Buginese letter ya, and perhaps a joiner before it. -/
  | ya (joined : Bool)
  /-- With the Buginese vowel sign i, joined to the letter ya. -/
  | vowelYa
  /-- With a Tifinagh consonant, and perhaps a joiner before it. -/
  | consonant (joined : Bool)
  /-- With the Tifinagh consonant joiner and a consonant. -/
  | boundConsonant
  /-- With a Lisu tone letter that may stand second. -/
  | tone
  /-- With the Old Turkic letter i, and perhaps a joiner before it. -/
  | orkhonI (joined : Bool)
  /-- With a Khmer letter that may be set below the line. -/
  | khmerLetter
  /-- With the Kirat Rai vowel sign e. -/
  | vowelE
  /-- With the Kirat Rai vowel sign ai. -/
  | vowelAi
  /-- With a skin tone. -/
  | skinTone
  /-- With an emoji. -/
  | emoji
  /-- With a joiner and an emoji. -/
  | joinedEmoji
  /-- With the frame of a key, a joiner and an emoji. -/
  | joinedKeycap
  /-- With a single letter of a flag. -/
  | flagLetter
  /-- With two or more letters of flags. -/
  | flagLetters
  /-- With a single letter of a flag, a joiner and an emoji. -/
  | joinedFlagLetter
  /-- With an even number of letters of flags, a joiner and an emoji. -/
  | joinedFlags
  /-- With a letter of a flag, flags, a joiner and an emoji. -/
  | joinedFlagsAndLetter
  /-- With a number of tag letters up to the end of a tag, a joiner and an emoji. -/
  | tagLetters (count : Nat)
  /-- With a number of tag digits, perhaps tag letters, and the end of a tag, a joiner and
  an emoji. -/
  | tagDigits (count : Nat)
  deriving DecidableEq, Repr

/-- What a variation mark asks for in the character before it. -/
inductive Style
  /-- A full-width quotation mark. -/
  | fullWidth
  /-- A plain symbol. -/
  | text
  /-- A coloured emoji. -/
  | emoji
  deriving DecidableEq, Repr

/-- What stands behind a character, as far as it matters to its width.  In front of the
opening there may be variation marks, which stay in force until a character comes that is
no such mark. -/
structure Follower where
  /-- The opening of the text, behind the variation marks. -/
  opening : Opening
  /-- Whether a mark asks for a coloured emoji. -/
  asksEmoji : Bool
  /-- Whether a mark asks for a plain symbol. -/
  asksText : Bool
  /-- Whether a mark asks for a full-width quotation mark. -/
  asksFullWidth : Bool
  deriving DecidableEq, Repr

namespace Follower

/-- An opening without variation marks before it. -/
def ofOpening (opening : Opening) : Follower := ⟨opening, false, false, false⟩

/-- Nothing that matters. -/
def nothing : Follower := ofOpening .other

/-- The follower with one more variation mark before it. -/
def ask (next : Follower) : Style → Follower
  | .emoji => { next with asksEmoji := true }
  | .text => { next with asksText := true }
  | .fullWidth => { next with asksFullWidth := true }

end Follower

/-! ### Properties of characters -/

/-- The joiner, which draws the characters on its two sides as one. -/
def joiner : Nat := 0x200D

/-- What a variation mark asks for. -/
def styleOf? (n : Nat) : Option Style :=
  if n = 0xFE01 then some .fullWidth
  else if n = 0xFE0E then some .text
  else if n = 0xFE0F then some .emoji
  else none

/-- Whether a character is one of the quotation marks that have a full-width form. -/
def isQuotationMark (n : Nat) : Bool := n == 0x2018 || n == 0x2019 || n == 0x201C || n == 0x201D

/-- Whether a character is drawn as a coloured emoji when the emoji mark follows. -/
def isEmojiBase (n : Nat) : Bool :=
  inRanges n textEmoji || inRanges n plainBases || inRanges n squaredIdeographs

/-- Whether a character is one of the five skin tones. -/
def isSkinTone (n : Nat) : Bool := 0x1F3FB ≤ n && n ≤ 0x1F3FF

/-- Whether a character is one of the letters that make flags in pairs. -/
def isFlagLetter (n : Nat) : Bool := 0x1F1E6 ≤ n && n ≤ 0x1F1FF

/-- Whether a character is a small letter of a tag. -/
def isTagLetter (n : Nat) : Bool := 0xE0061 ≤ n && n ≤ 0xE007A

/-- Whether a character is a digit of a tag. -/
def isTagDigit (n : Nat) : Bool := 0xE0030 ≤ n && n ≤ 0xE0039

/-- Whether a character may stand between a lam and its alef. -/
def isArabicMark (n : Nat) : Bool := inRanges n zeroWidth && !inRanges n arabicBreaks

/-- Whether a character is one of the Lisu tone letters that may stand first. -/
def isFirstTone (n : Nat) : Bool := 0xA4F8 ≤ n && n ≤ 0xA4FB

/-- The opening of a text that begins with a character, whatever stands behind it. -/
def Opening.of (n : Nat) : Opening :=
  if inRanges n alefs then .alef
  else if n = 0x5DC then .lamed false
  else if n = 0x1A10 then .ya false
  else if inRanges n tifinaghConsonants then .consonant false
  else if n = 0xA4FC ∨ n = 0xA4FD then .tone
  else if n = 0x10C03 then .orkhonI false
  else if inRanges n khmerLetters then .khmerLetter
  else if n = 0x16D67 then .vowelE
  else if n = 0x16D68 then .vowelAi
  else if isFlagLetter n then .flagLetter
  else if isSkinTone n then .skinTone
  else if inRanges n Text.emoji then .emoji
  else .other

namespace Opening

/-! ### Ligatures and sequences -/

/-- The column that an opening holds back: that of a letter which the character before it
may set below the line, or with which it may make a ligature or a flag. -/
def held : Opening → Nat
  | .boundConsonant | .khmerLetter | .joinedFlagLetter | .joinedFlagsAndLetter => 1
  | _ => 0

/-- Whether the opening may be part of a ligature, which a variation mark between its
letters does not break. -/
def ligates : Opening → Bool
  | .alef | .lamed _ | .ya _ | .vowelYa | .consonant _ | .boundConsonant | .tone | .orkhonI _
  | .khmerLetter => true
  | _ => false

/-- The opening with a joiner before it, where a joiner does not break a ligature. -/
def join? : Opening → Option Opening
  | .lamed _ => some (.lamed true)
  | .ya _ => some (.ya true)
  | .consonant _ => some (.consonant true)
  | .orkhonI _ => some (.orkhonI true)
  | .vowelYa => some .vowelYa
  | .boundConsonant => some .boundConsonant
  | .tone => some .tone
  | .khmerLetter => some .khmerLetter
  | _ => none

/-- The opening with a joiner or a shapeless mark before it, where that does not break a
ligature. -/
def extend? (opening : Opening) (n : Nat) : Option Opening :=
  if n = joiner then opening.join?
  else if opening.join?.isSome && inRanges n shapelessMarks then some opening
  else none

/-- What a character adds that is drawn together with what stands behind it, and how the
two open. -/
def merge? (opening : Opening) (n : Nat) : Option (Nat × Opening) :=
  match opening with
  | .other => none
  | .alef =>
    if inRanges n lams then some (0, .other)
    else if isArabicMark n then some (0, .alef)
    else none
  | .lamed joined => if n == 0x5D0 && joined then some (0, .other) else none
  | .ya joined => if n == 0x1A17 && joined then some (0, .vowelYa) else none
  | .vowelYa => if n = 0x1A15 then some (0, .other) else none
  | .consonant joined =>
    if n = 0x2D7F then some (0, .boundConsonant)
    else if inRanges n tifinaghConsonants && joined then some (0, .other)
    else none
  | .boundConsonant => if inRanges n tifinaghConsonants then some (0, .other) else none
  | .tone => if isFirstTone n then some (0, .other) else none
  | .orkhonI joined => if n == 0x10C32 && joined then some (0, .other) else none
  | .khmerLetter => if n = 0x17D2 then some (0, .other) else none
  | .vowelE =>
    if n = 0x16D63 ∨ n = 0x16D69 then some (0, .other)
    else if n = 0x16D67 then some (0, .vowelAi)
    else if n = 0x16D68 then some (1, .vowelE)
    else none
  | .vowelAi => if n = 0x16D63 then some (0, .other) else none
  | .skinTone =>
    if inRanges n skinToneBases then some (0, .emoji)
    else if n = joiner then some (0, .joinedEmoji)
    else none
  | .emoji => if n = joiner then some (0, .joinedEmoji) else none
  | .joinedEmoji =>
    if n = 0x20E3 then some (0, .joinedKeycap)
    else if isFlagLetter n then some (0, .joinedFlagLetter)
    else if isSkinTone n then some (0, .skinTone)
    else if n = 0xE007F then some (0, .tagLetters 0)
    else if inRanges n Text.emoji then some (0, .emoji)
    else none
  | .joinedKeycap => none
  | .flagLetter => if isFlagLetter n then some (1, .flagLetters) else none
  | .flagLetters =>
    if isFlagLetter n then some (1, .flagLetters)
    else if n = joiner then some (0, .joinedEmoji)
    else none
  | .joinedFlagLetter => if isFlagLetter n then some (0, .joinedFlags) else none
  | .joinedFlags =>
    if isFlagLetter n then some (2, .joinedFlagsAndLetter)
    else if n = joiner then some (0, .joinedEmoji)
    else none
  | .joinedFlagsAndLetter =>
    if isFlagLetter n then some (0, .joinedFlags)
    else if n = joiner then some (1, .joinedEmoji)
    else none
  | .tagLetters count =>
    if isTagLetter n && count < 6 then some (0, .tagLetters (count + 1))
    else if isTagDigit n && count < 5 then some (0, .tagDigits 1)
    else if n = 0x1F3F4 ∧ 3 ≤ count then some (0, .emoji)
    else none
  | .tagDigits count =>
    if isTagDigit n && count < 3 then some (0, .tagDigits (count + 1))
    else if n = 0x1F3F4 ∧ count = 3 then some (0, .emoji)
    else none

/-- Whether an emoji before the opening is the next part of a sequence of emoji. -/
def awaitsEmoji : Opening → Bool
  | .joinedEmoji | .joinedKeycap => true
  | _ => false

/-- Whether the opening stays in force behind a variation mark. -/
def keeps (opening : Opening) (style : Style) : Bool :=
  opening.ligates || opening.awaitsEmoji && style == .emoji

end Opening

namespace Follower

/-- What a character adds that a variation mark behind it changes, and the follower that
the two are. -/
def restyle? (next : Follower) (n : Nat) : Option (Nat × Follower) :=
  if next.asksEmoji && isEmojiBase n then
    some (if next.opening.awaitsEmoji then 0 else 2, ofOpening .emoji)
  else if next.asksText && inRanges n plainBases then some (1, nothing)
  else if next.asksFullWidth && isQuotationMark n then some (2, nothing)
  else none

/-- The follower once a character has come that the emoji mark does not change.  If the mark
was part of a sequence of emoji, the sequence is broken. -/
def withoutEmojiMark (next : Follower) : Follower :=
  if next.asksEmoji && next.opening.awaitsEmoji then nothing
  else { next with asksEmoji := false }

/-- What a variation mark adds before a follower, and the follower that the two are.  Before
part of a ligature the marks add up, elsewhere the mark stands alone. -/
def mark (next : Follower) (style : Style) : Nat × Follower :=
  if next.opening.keeps style then (0, next.ask style)
  else (next.opening.held, nothing.ask style)

/-- What a character adds that is not drawn together with the opening behind it: its own
width, less what it holds back, and what the opening holds back. -/
def apart (next : Opening) (c : Char) : Nat × Follower :=
  let opening := Opening.of c.toNat
  (charWidth c - opening.held + next.held, ofOpening opening)

/-- What a character adds before an opening without variation marks, and the follower that
the two are. -/
def beside (next : Opening) (c : Char) : Nat × Follower :=
  match next.extend? c.toNat with
  | some opening => (0, ofOpening opening)
  | none =>
    match next.merge? c.toNat with
    | some (width, opening) => (width, ofOpening opening)
    | none => apart next c

/-- What a character adds before a follower, and the follower that the two are. -/
def before (next : Follower) (c : Char) : Nat × Follower :=
  match next.restyle? c.toNat with
  | some (width, follower) => (width + next.opening.held, follower)
  | none =>
    match styleOf? c.toNat with
    | some style => next.withoutEmojiMark.mark style
    | none => beside next.withoutEmojiMark.opening c

/-- A blank takes one column whatever stands behind it, and does not matter to what
stands before it. -/
theorem before_blank (next : Follower) :
    next.before ' ' = (1 + next.opening.held, nothing) := by
  obtain ⟨opening, emoji, text, fullWidth⟩ := next
  cases emoji <;> cases text <;> cases fullWidth <;> cases opening <;> rfl

end Follower

end Text

end Columnar
