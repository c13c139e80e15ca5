import SqlGateway.Text.Width.Tables

/-!
# Display width

How many columns of a terminal a text takes. Most characters take one column, ideographs two, and
marks none. Some sequences are drawn as one sign: pictographs with selectors, skin tones, flags and
joiners, and the ligatures of several scripts. The text is read from its end, so that what follows
a character is known when it is counted; a character that completes a sign then takes away what was
counted too much.
-/

namespace SqlGateway.Text.Width

/-! ## What stands behind a place -/

/-- The sign that begins behind a place in a text, as far as a character at the place may join it.
A flag says whether a joiner stands in between. -/
inductive Sign where
  | other
  | lineFeed
  | skinTone
  /-- One letter of a flag. -/
  | flagLetter
  /-- Several letters of flags. -/
  | flagLetters
  | picture
  /-- A joiner before a picture. -/
  | joiner
  /-- A keycap before a joiner. -/
  | joinedKeycap
  | joinedFlagLetter
  | joinedFlags
  | joinedFlagsAndLetter
  /-- The end of a sequence of tags before a joiner, the letters before it and the digits before
  these. -/
  | joinedTags (letters digits : Nat)
  /-- The vowel sign e of Kirat Rai. -/
  | kiratE
  /-- The vowel sign ai of Kirat Rai, written as two signs. -/
  | kiratAi
  | alef
  | lamed (joined : Bool)
  /-- The letter ya of Buginese. -/
  | ya (joined : Bool)
  /-- The vowel sign i of Buginese, joined to a ya. -/
  | vowelBeforeYa
  /-- A consonant of Tifinagh. -/
  | tifinagh (joined : Bool)
  /-- The consonant joiner of Tifinagh before a consonant. -/
  | tifinaghJoiner
  /-- One of the tone letters of Lisu that a tone letter may go before. -/
  | toneLetter
  /-- The letter i of Orkhon. -/
  | orkhonI (joined : Bool)
  /-- A Khmer letter that has a form below the letter before it. -/
  | subscript
deriving DecidableEq, Repr

namespace Sign

def inLigature : Sign → Bool
  | .alef | .lamed _ | .ya _ | .vowelBeforeYa | .tifinagh _ | .tifinaghJoiner | .toneLetter
  | .orkhonI _ | .subscript => true
  | _ => false

def join? : Sign → Option Sign
  | .alef => none
  | .lamed _ => some (.lamed true)
  | .ya _ => some (.ya true)
  | .tifinagh _ => some (.tifinagh true)
  | .orkhonI _ => some (.orkhonI true)
  | sign => if sign.inLigature then some sign else none

end Sign

/-- What stands behind a place: a sign, and the selectors between. -/
structure Following where
  sign : Sign
  asPicture : Bool
  asText : Bool
  asWide : Bool
deriving DecidableEq, Repr

namespace Following

def ofSign (sign : Sign) : Following := ⟨sign, false, false, false⟩

def nothing : Following := ofSign .other

def selectPicture (following : Following) : Following :=
  if following.sign.inLigature || following.sign = .joiner || following.sign = .joinedKeycap then
    { following with asPicture := true }
  else { nothing with asPicture := true }

def selectText (following : Following) : Following :=
  if following.sign.inLigature then { following with asText := true }
  else { nothing with asText := true }

def selectWide (following : Following) : Following :=
  if following.sign.inLigature then { following with asWide := true }
  else { nothing with asWide := true }

def withoutPicture (following : Following) : Following :=
  if following.sign.inLigature then { following with asPicture := false } else nothing

end Following

/-! ## Kinds of characters -/

def within (first last : Nat) (character : Char) : Bool :=
  first ≤ character.toNat && character.toNat ≤ last

def isPicture (character : Char) : Bool := pictureRanges.contains character

def isSkinTone (character : Char) : Bool := within 0x1F3FB 0x1F3FF character

def isFlagLetter (character : Char) : Bool := within 0x1F1E6 0x1F1FF character

def isTagLetter (character : Char) : Bool := within 0xE0061 0xE007A character

def isTagDigit (character : Char) : Bool := within 0xE0030 0xE0039 character

def takesTextSelector (character : Char) : Bool :=
  selectableRanges.contains character && isPicture character &&
    !within 0x1F200 0x1F2FF character

def takesWideSelector (character : Char) : Bool :=
  character = '‘' || character = '’' || character = '“' || character = '”'

/-- Characters that may stand inside a ligature: the grapheme joiner and selectors. -/
def isInsideLigature (character : Char) : Bool :=
  character = '\u034F' || within 0x17B4 0x17B5 character || within 0x180B 0x180D character ||
    character = '\u180F' || character = '\u200D' || within 0xFE00 0xFE0F character ||
    within 0xE0100 0xE01EF character

/-- Marks that may stand between a lam and its alef. -/
def isTransparent (character : Char) : Bool :=
  zeroRanges.contains character && !separatingRanges.contains character

def isLam (character : Char) : Bool :=
  character = '\u0644' || within 0x6B5 0x6B8 character || character = '\u076A' ||
    character = '\u08A6' || character = '\u08C7'

def isTifinaghConsonant (character : Char) : Bool :=
  within 0x2D31 0x2D65 character || character = '\u2D6F'

/-! ## Counting -/

def signOf (character : Char) : Sign :=
  if character = '\u05DC' then .lamed false
  else if character = '\u1A10' then .ya false
  else if isTifinaghConsonant character then .tifinagh false
  else if within 0xA4FC 0xA4FD character then .toneLetter
  else if character.toNat = 0x10C03 then .orkhonI false
  else if character.toNat = 0x16D67 then .kiratE
  else if character.toNat = 0x16D68 then .kiratAi
  else if isFlagLetter character then .flagLetter
  else if isSkinTone character then .skinTone
  else if isPicture character then .picture
  else if alefRanges.contains character then .alef
  else if subscriptRanges.contains character then .subscript
  else .other

def single (character : Char) : Int × Following :=
  if character = '\n' then (1, .ofSign .lineFeed)
  else if character.toNat ≤ 0xA0 then (1, .nothing)
  else if character = '\uFE01' then (0, Following.nothing.selectWide)
  else if character = '\uFE0E' then (0, Following.nothing.selectText)
  else if character = '\uFE0F' then (0, Following.nothing.selectPicture)
  else if zeroRanges.contains character then (0, .nothing)
  else if character = '\u17D8' then (3, .nothing)
  else if wideRanges.contains character then (2, .ofSign (signOf character))
  else (1, .ofSign (signOf character))

/-- What a character adds when it joins the sign behind it, and the sign that comes of it. -/
def joins (character : Char) : Sign → Option (Int × Sign)
  | .lineFeed => if character = '\r' then some (0, .other) else none
  | .skinTone =>
    if skinBaseRanges.contains character then some (0, .picture)
    else if character = '\u200D' then some (0, .joiner)
    else none
  | .flagLetter => if isFlagLetter character then some (1, .flagLetters) else none
  | .flagLetters =>
    if isFlagLetter character then some (1, .flagLetters)
    else if character = '\u200D' then some (0, .joiner)
    else none
  | .picture => if character = '\u200D' then some (0, .joiner) else none
  | .joiner =>
    if character = '\u20E3' then some (0, .joinedKeycap)
    else if isFlagLetter character then some (1, .joinedFlagLetter)
    else if isSkinTone character then some (0, .skinTone)
    else if character.toNat = 0xE007F then some (0, .joinedTags 0 0)
    else if isPicture character then some (0, .picture)
    else none
  | .joinedFlagLetter => if isFlagLetter character then some (-1, .joinedFlags) else none
  | .joinedFlags =>
    if isFlagLetter character then some (3, .joinedFlagsAndLetter)
    else if character = '\u200D' then some (0, .joiner)
    else none
  | .joinedFlagsAndLetter =>
    if isFlagLetter character then some (-1, .joinedFlags)
    else if character = '\u200D' then some (0, .joiner)
    else none
  | .joinedTags letters digits =>
    if isTagLetter character && digits = 0 && letters < 6 then
      some (0, .joinedTags (letters + 1) 0)
    else if isTagDigit character && digits = 0 && letters < 5 then some (0, .joinedTags letters 1)
    else if isTagDigit character && 0 < digits && digits < 3 then
      some (0, .joinedTags letters (digits + 1))
    else if character.toNat = 0x1F3F4 && (digits = 3 || digits = 0 && 3 ≤ letters) then
      some (0, .picture)
    else none
  | .kiratE =>
    if character.toNat = 0x16D63 then some (0, .other)
    else if character.toNat = 0x16D67 then some (0, .kiratAi)
    else if character.toNat = 0x16D68 then some (1, .kiratE)
    else if character.toNat = 0x16D69 then some (0, .other)
    else none
  | .kiratAi => if character.toNat = 0x16D63 then some (0, .other) else none
  | .alef =>
    if isLam character then some (0, .other)
    else if isTransparent character then some (0, .alef)
    else none
  | .lamed true => if character = '\u05D0' then some (0, .other) else none
  | .ya true => if character = '\u1A17' then some (0, .vowelBeforeYa) else none
  | .vowelBeforeYa => if character = '\u1A15' then some (0, .other) else none
  | .tifinagh joined =>
    if character = '\u2D7F' then some (1, .tifinaghJoiner)
    else if joined && isTifinaghConsonant character then some (0, .other)
    else none
  | .tifinaghJoiner => if isTifinaghConsonant character then some (-1, .other) else none
  | .toneLetter => if within 0xA4F8 0xA4FB character then some (0, .other) else none
  | .orkhonI true => if character.toNat = 0x10C32 then some (0, .other) else none
  | .subscript => if character = '\u17D2' then some (-1, .other) else none
  | .other | .joinedKeycap | .lamed false | .ya false | .orkhonI false => none

/-- The columns that a character adds to what follows it. -/
def step (character : Char) (following : Following) : Int × Following :=
  if following.asPicture && selectableRanges.contains character then
    (if following.sign = .joiner || following.sign = .joinedKeycap then 0 else 2,
      .ofSign .picture)
  else select (if following.asPicture then following.withoutPicture else following)
where
  /-- Selectors, and what a selector asked for. -/
  select (following : Following) : Int × Following :=
    if character = '\uFE0F' then (0, following.selectPicture)
    else if character = '\uFE0E' then (0, following.selectText)
    else if following.asText && takesTextSelector character then (1, .nothing)
    else if character = '\uFE01' then (0, { following with asText := false }.selectWide)
    else if following.asWide && takesWideSelector character then (2, .nothing)
    else sequence following.sign
  /-- A character before a sign. -/
  sequence (sign : Sign) : Int × Following :=
    match sign.join? with
    | some joined =>
      if character = '\u200D' then (0, .ofSign joined)
      else if isInsideLigature character then (0, .ofSign sign)
      else pair sign
    | none => pair sign
  /-- A character that joins a sign, or one that stands by itself. -/
  pair (sign : Sign) : Int × Following :=
    match joins character sign with
    | some (columns, sign) => (columns, .ofSign sign)
    | none => single character

/-- The columns of a list of characters, and what its first one is for a character before it. -/
def measure (text : List Char) : Int × Following :=
  text.foldr (fun character (columns, following) =>
    let (more, following) := step character following
    (columns + more, following)) (0, .nothing)

def columns (text : List Char) : Nat := (measure text).1.toNat

example : columns "a日b".toList = 4 := by decide +kernel
example : columns "👨‍👩‍👧".toList = 2 := by decide +kernel
example : columns "👍🏽❤️❤1️⃣⌚".toList = 9 := by decide +kernel
example : columns "لا لَا".toList = 3 := by decide +kernel
example : columns "ក្ក".toList = 1 := by decide +kernel

end SqlGateway.Text.Width
