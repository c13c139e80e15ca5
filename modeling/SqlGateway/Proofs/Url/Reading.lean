import Mathlib.Data.List.TakeWhile
import SqlGateway.Proofs.Text.Classes
import SqlGateway.Proofs.Text.Digits
import SqlGateway.Proofs.Url.Percent
import SqlGateway.Url.Basic

/-!
# Reading back written URLs

A URL with credentials, a host, a port and one segment of path, of which name, password and segment
keep nothing but letters and digits, is read as these parts (`parse_authority`). Name and password
come back decoded. The segment comes back as it was written, unless it is a point or two
(`resolve_encode`).
-/

namespace SqlGateway.Url

/-! ## Encoded names -/

/-- Whether a character may stand in a percent-encoded name that keeps letters and digits only. -/
def isWritten (character : Char) : Bool := character.isAlphanum || character = '%'

theorem isWritten_iff {character : Char} :
    isWritten character = true ↔ character.isAlphanum = true ∨ character = '%' := by
  rw [isWritten, Bool.or_eq_true, decide_eq_true_eq]

theorem bounds_of_isWritten {character : Char} (written : isWritten character = true) :
    37 ≤ character.toNat ∧ character.toNat ≤ 122 := by
  rcases isWritten_iff.mp written with alphanumeric | rfl
  · have bounds := Text.bounds_of_isAlphanum alphanumeric
    omega
  · decide

theorem isWritten_of_mem_encode {text : List Char} {character : Char}
    (member : character ∈ Percent.encode Char.isAlphanum text) : isWritten character = true := by
  rw [isWritten_iff]
  rcases Percent.mem_encode member with kept | percent | digit
  · exact .inl kept
  · exact .inr percent
  · exact .inl digit

theorem isPathChar_of_isWritten {character : Char} (written : isWritten character = true) :
    isPathChar character = true := by
  have bounds := bounds_of_isWritten written
  have ascii : character.toNat < 128 := by omega
  exact Text.ascii_forall (fun other => isWritten other = true → isPathChar other = true)
    (by decide) ascii written

theorem pathSegments_of_written {segment : List Char}
    (written : ∀ character ∈ segment, isWritten character = true) :
    pathSegments ('/' :: segment) = resolve [] [segment] := by
  have single : '/' ∉ segment := Text.not_mem_of_refused written (by decide)
  rw [pathSegments, Text.pieces_of_not_mem single, List.map_singleton,
    Percent.encode_of_forall_keep fun character member =>
      isPathChar_of_isWritten (written character member)]

/-! ## Hosts -/

namespace Host

/-- Whether a character means itself in a host: printable ASCII but for what URLs use. -/
def isPlain (character : Char) : Bool := isKept character && !forbidden.contains character

theorem visible_of_isPlain {character : Char} (plain : isPlain character = true) :
    32 < character.toNat ∧ character.toNat < 127 := by
  rw [isPlain, isKept, Bool.and_eq_true, Bool.and_eq_true, decide_eq_true_eq, decide_eq_true_eq,
    Bool.not_eq_true'] at plain
  rcases plain with ⟨⟨least, most⟩, allowed⟩
  refine ⟨Nat.lt_of_le_of_ne least ?_, most⟩
  intro blank
  have same : character = ' ' := by rw [← Char.ofNat_toNat character, ← blank]
  rw [same] at allowed
  exact absurd allowed (by decide)

theorem plain_of_isPlain {text : List Char}
    (isHost : ∀ character ∈ text, isPlain character = true) : plain text = .ok text := by
  have unbracketed : '[' ∉ text := Text.not_mem_of_refused isHost (by decide)
  have each : ∀ character ∈ text, isKept character = true ∧ character ∉ forbidden := by
    intro character member
    have facts := isHost character member
    rw [isPlain, Bool.and_eq_true, Bool.not_eq_true'] at facts
    simpa using facts
  have allowed : text.any forbidden.contains = false := by
    rw [List.any_eq_false]
    intro character member
    simpa using (each character member).2
  rw [plain]
  · rw [allowed, Percent.encode_of_forall_keep fun character member => (each character member).1]
    rfl
  · rintro inner rfl
    exact unbracketed List.mem_cons_self

end Host

/-! ## The pieces of the text -/

theorem cutLastAt_append {behind : List Char} (absent : '@' ∉ behind) (before : List Char) :
    cutLastAt (before ++ '@' :: behind) = some (before, behind) := by
  have reversed : (before ++ '@' :: behind).reverse = behind.reverse ++ '@' :: before.reverse := by
    simp
  rw [cutLastAt, reversed, Text.cut_append (by simpa using absent)]
  simp

theorem credentials_append {username : List Char} (absent : ':' ∉ username)
    (password : List Char) : credentials (username ++ ':' :: password) = (username, password) := by
  rw [credentials, Text.cut_append absent, Option.getD_some]

theorem cutHost_append {host : List Char} (colon : ':' ∉ host) (bracket : '[' ∉ host)
    (behind : List Char) : cutHost false (host ++ ':' :: behind) = (host, ':' :: behind) := by
  induction host with
  | nil => rfl
  | cons first rest induction =>
    simp only [List.mem_cons, not_or] at colon bracket
    simp [cutHost, Ne.symm colon.1, Ne.symm bracket.1, induction colon.2 bracket.2]

theorem significant_of_visible {text : List Char}
    (visible : ∀ character ∈ text, 32 < character.toNat) : significant text = text := by
  have inside : ∀ character ∈ text, decide (character.toNat ≤ 32) = false := by
    intro character member
    exact decide_eq_false (Nat.not_le.mpr (visible character member))
  simp only [significant, Text.trimmed_of_inside inside, List.filter_eq_self]
  intro character member
  rw [decide_eq_true_eq]
  intro control
  have low : ∀ other ∈ ['\t', '\n', '\r'], other.toNat ≤ 32 := by simp
  exact Nat.not_le.mpr (visible character member) (low character control)

theorem scheme?_append {name : List Char} (nonempty : name ≠ [])
    (letters : ∀ letter ∈ name, letter.isAlpha = true) (rest : List Char) :
    scheme? (name ++ ':' :: rest) = some (name.map Char.toLower, rest) := by
  have inside : ∀ letter ∈ name, isSchemeChar letter = true := by
    intro letter member
    rw [isSchemeChar, Text.isAlphanum_of_isAlpha (letters letter member), Bool.true_or]
  have ends : ∀ next ∈ (':' :: rest).head?, isSchemeChar next = false := by
    rintro next ⟨⟩
    decide
  cases name with
  | nil => exact absurd rfl nonempty
  | cons first more =>
    have start := letters first List.mem_cons_self
    have front := Text.takeWhile_run inside ends
    have back := Text.dropWhile_run inside ends
    rw [List.cons_append] at front back ⊢
    simp only [scheme?, start, front, back]
    rfl

/-! ## Ports -/

theorem le_foldl_digits (digits : List Char) (total : Nat) :
    total ≤ digits.foldl (fun total digit => total * 10 + Text.digitValue digit) total := by
  induction digits generalizing total with
  | nil => exact Nat.le_refl total
  | cons digit digits induction =>
    exact Nat.le_trans (by omega) (induction (total * 10 + Text.digitValue digit))

/-- Digits are read to their value: no value on the way is larger than the last. -/
theorem portNumber_of_digits {digits : List Char}
    (allDigits : ∀ digit ∈ digits, digit.isDigit = true) (total : Nat) (any : Bool)
    (given : any = true ∨ digits ≠ [])
    (small : digits.foldl (fun total digit => total * 10 + Text.digitValue digit) total ≤ 65535) :
    portNumber total any digits =
      .ok (some (digits.foldl
        (fun total digit => total * 10 + Text.digitValue digit) total).toUInt16, []) := by
  induction digits generalizing total any with
  | nil =>
    have found : any = true := given.resolve_right (fun none => none rfl)
    rw [portNumber, if_pos found]
    rfl
  | cons digit digits induction =>
    rw [List.forall_mem_cons] at allDigits
    have least : total * 10 + Text.digitValue digit ≤ 65535 :=
      Nat.le_trans (le_foldl_digits digits _) small
    rw [portNumber, if_pos allDigits.1, if_neg (Nat.not_lt.mpr least)]
    exact induction allDigits.2 _ true (.inl rfl) small

theorem portNumber_toDigits (port : UInt16) :
    portNumber 0 false (Nat.toDigits 10 port.toNat) = .ok (some port, []) := by
  have value := Text.digitsValue_toDigits port.toNat
  have small := port.toNat_lt
  rw [Text.digitsValue] at value
  have digits : Nat.toDigits 10 port.toNat ≠ [] := Nat.toDigits_ne_nil
  rw [portNumber_of_digits (fun _ => Text.isDigit_of_mem_toDigits) 0 false (.inr digits)
    (by omega), value]
  congr 3
  exact UInt16.ofNat_toNat

/-! ## Authorities -/

def authority (username password host : List Char) (port : UInt16) : List Char :=
  username ++ ':' :: (password ++ '@' :: (host ++ ':' :: Nat.toDigits 10 port.toNat))

section Authority

variable {username password host : List Char} (port : UInt16)
  (userWritten : ∀ character ∈ username, isWritten character = true)
  (passwordWritten : ∀ character ∈ password, isWritten character = true)
  (isHost : ∀ character ∈ host, Host.isPlain character = true)

include isHost in
theorem not_mem_hostAndPort {character : Char} (other : Host.isPlain character = false)
    (colon : character ≠ ':') (digit : character.isDigit = false) :
    character ∉ host ++ ':' :: Nat.toDigits 10 port.toNat := by
  rw [List.mem_append, List.mem_cons, not_or, not_or]
  exact ⟨Text.not_mem_of_refused isHost other, colon,
    Text.not_mem_of_refused (fun _ => Text.isDigit_of_mem_toDigits) digit⟩

include userWritten isHost in
theorem cutAuthority_authority (behind : List Char) (named : username ≠ []) :
    cutAuthority (authority username password host port) behind =
      .ok (username, password, host ++ ':' :: Nat.toDigits 10 port.toNat) := by
  have unmarked : '@' ∉ host ++ ':' :: Nat.toDigits 10 port.toNat :=
    not_mem_hostAndPort port isHost (by decide) (by decide) (by decide)
  have uncut : ':' ∉ username := Text.not_mem_of_refused userWritten (by decide)
  have parts : authority username password host port =
      (username ++ ':' :: password) ++ '@' :: (host ++ ':' :: Nat.toDigits 10 port.toNat) := by
    simp [authority]
  rw [cutAuthority, parts, cutLastAt_append unmarked]
  cases username with
  | nil => exact absurd rfl named
  | cons first more =>
    have written := credentials_append uncut password
    rw [List.cons_append] at written
    simp only [List.cons_append, written]

include userWritten passwordWritten isHost

theorem not_mem_authority {character : Char} (unwritten : isWritten character = false)
    (other : Host.isPlain character = false) (colon : character ≠ ':') (atSign : character ≠ '@')
    (digit : character.isDigit = false) : character ∉ authority username password host port := by
  have behind := not_mem_hostAndPort port isHost other colon digit
  have user : character ∉ username := Text.not_mem_of_refused userWritten unwritten
  have secret : character ∉ password := Text.not_mem_of_refused passwordWritten unwritten
  simp only [authority, List.mem_append, List.mem_cons, not_or] at behind ⊢
  exact ⟨user, colon, secret, atSign, behind⟩

theorem endsAuthority_of_mem_authority {character : Char}
    (member : character ∈ authority username password host port) :
    endsAuthority false character = false := by
  have absent : character ≠ '/' ∧ character ≠ '?' ∧ character ≠ '#' := by
    refine ⟨?_, ?_, ?_⟩ <;>
    · rintro rfl
      exact not_mem_authority port userWritten passwordWritten isHost (by decide) (by decide)
        (by decide) (by decide) (by decide) member
  simp [endsAuthority, absent]

theorem visible_of_mem_authority {character : Char}
    (member : character ∈ authority username password host port) : 32 < character.toNat := by
  simp only [authority, List.mem_append, List.mem_cons] at member
  rcases member with user | rfl | secret | rfl | inHost | rfl | digit
  · have bounds := bounds_of_isWritten (userWritten character user)
    omega
  · decide
  · have bounds := bounds_of_isWritten (passwordWritten character secret)
    omega
  · decide
  · exact (Host.visible_of_isPlain (isHost character inHost)).1
  · decide
  · have isDigit := Text.isDigit_of_mem_toDigits digit
    have bounds := Text.bounds_of_isAlphanum (Text.isAlphanum_of_isDigit isDigit)
    omega

variable {segment : List Char}
  (segmentWritten : ∀ character ∈ segment, isWritten character = true)
  (named : username ≠ []) (secret : password ≠ []) (hosted : host ≠ [])

include segmentWritten named secret hosted

theorem withAuthority_authority (scheme : String) :
    withAuthority scheme (authority username password host port ++ '/' :: segment) = .ok {
      scheme
      username := Percent.decode username
      password := some (Percent.decode password)
      host := some (String.ofList host)
      port := some port
      path := resolve [] [segment]
      query := [] } := by
  have inside : ∀ character ∈ authority username password host port,
      (!endsAuthority false character) = true := by
    intro character member
    rw [endsAuthority_of_mem_authority port userWritten passwordWritten isHost member]
    rfl
  have ends : ∀ next ∈ ('/' :: segment).head?, (!endsAuthority false next) = false := by
    rintro next ⟨⟩
    decide
  have front := Text.takeWhile_run inside ends
  have back := Text.dropWhile_run inside ends
  have parts : cutAuthority (authority username password host port) ('/' :: segment) =
      .ok (username, password, host ++ ':' :: Nat.toDigits 10 port.toNat) :=
    cutAuthority_authority port userWritten isHost ('/' :: segment) named
  have colon : ':' ∉ host := Text.not_mem_of_refused isHost (by decide)
  have bracket : '[' ∉ host := Text.not_mem_of_refused isHost (by decide)
  have whole : ∀ character ∈ '/' :: segment, (!isPathEnd character) = true := by
    rw [List.forall_mem_cons]
    refine ⟨by decide, fun character member => ?_⟩
    have absent : character ≠ '?' ∧ character ≠ '#' := by
      refine ⟨?_, ?_⟩ <;>
      · rintro rfl
        exact Text.not_mem_of_refused segmentWritten (by decide) member
    simp [isPathEnd, absent]
  have path : ('/' :: segment).takeWhile (fun character => !isPathEnd character) = '/' :: segment :=
    List.takeWhile_eq_self_iff.mpr whole
  have query : ('/' :: segment).dropWhile (fun character => !isPathEnd character) = [] :=
    List.dropWhile_eq_nil_iff.mpr whole
  simp only [withAuthority, front, back, parts, cutHost_append colon bracket,
    Host.plain_of_isPlain isHost, List.isEmpty_eq_false_iff.mpr hosted, Bool.false_and,
    Bool.false_eq_true, if_false, List.drop_succ_cons, List.drop_zero, portNumber_toDigits,
    List.isEmpty_eq_false_iff.mpr secret, List.nil_append, path, query,
    pathSegments_of_written segmentWritten]
  rfl

theorem parse_authority {scheme : List Char} (letters : ∀ letter ∈ scheme, letter.isAlpha = true)
    (schemed : scheme ≠ [])
    (offWeb : webSchemes.contains (String.ofList (scheme.map Char.toLower)) = false)
    (offDisk : String.ofList (scheme.map Char.toLower) ≠ "file") :
    parse (String.ofList (scheme ++ ':' :: '/' :: '/' ::
        (authority username password host port ++ '/' :: segment))) = .ok {
      scheme := String.ofList (scheme.map Char.toLower)
      username := Percent.decode username
      password := some (Percent.decode password)
      host := some (String.ofList host)
      port := some port
      path := resolve [] [segment]
      query := [] } := by
  have visible : ∀ character ∈ scheme ++ ':' :: '/' :: '/' ::
      (authority username password host port ++ '/' :: segment), 32 < character.toNat := by
    intro character member
    simp only [List.mem_append, List.mem_cons] at member
    rcases member with inScheme | rfl | rfl | rfl | inAuthority | rfl | inSegment
    · have alphanumeric := Text.isAlphanum_of_isAlpha (letters character inScheme)
      have bounds := Text.bounds_of_isAlphanum alphanumeric
      omega
    · decide
    · decide
    · decide
    · exact visible_of_mem_authority port userWritten passwordWritten isHost inAuthority
    · decide
    · have bounds := bounds_of_isWritten (segmentWritten character inSegment)
      omega
  rw [parse, String.toList_ofList, significant_of_visible visible,
    scheme?_append schemed letters]
  simp only [offWeb, Bool.false_eq_true, if_false, if_neg offDisk]
  exact withAuthority_authority port userWritten passwordWritten isHost segmentWritten named secret
    hosted _

end Authority

/-! ## Points in the path -/

def IsDot (form : List Char) : Prop := form = ['.'] ∨ form = ['%', '2', 'e']

theorem eq_of_toLower {character mark : Char} (ascii : character.toNat < 128)
    (noLetter : mark.isAlpha = false) (lower : character.toLower = mark) : character = mark := by
  have kept := Text.ascii_forall
    (fun other => other.toLower.isAlpha = false → other = other.toLower) (by decide) ascii
  rw [lower] at kept
  exact kept noLetter

theorem hexValue?_of_toLower {character digit : Char} (ascii : character.toNat < 128)
    (lower : character.toLower = digit) : Text.hexValue? character = Text.hexValue? digit := by
  rw [← lower]
  exact Text.ascii_forall (fun other => Text.hexValue? other = Text.hexValue? other.toLower)
    (by decide) ascii

theorem decodeBytes_of_isDot {form front : List Char} (isDot : IsDot form)
    (ascii : ∀ character ∈ front, character.toNat < 128) (lower : front.map Char.toLower = form)
    (behind : List Char) :
    Percent.decodeBytes (front ++ behind) = 46 :: Percent.decodeBytes behind := by
  rcases isDot with rfl | rfl
  · rcases List.map_eq_singleton_iff.mp lower with ⟨point, rfl, isPoint⟩
    rw [eq_of_toLower (ascii point List.mem_cons_self) (by decide) isPoint]
    exact Percent.decodeBytes_cons_of_ne (by decide) behind
  · rcases List.map_eq_cons_iff.mp lower with ⟨mark, rest, rfl, isMark, lower⟩
    rcases List.map_eq_cons_iff.mp lower with ⟨high, rest, rfl, isHigh, lower⟩
    rcases List.map_eq_singleton_iff.mp lower with ⟨low, rfl, isLow⟩
    rw [eq_of_toLower (ascii mark (by simp)) (by decide) isMark]
    have highValue := hexValue?_of_toLower (ascii high (by simp)) isHigh
    have lowValue := hexValue?_of_toLower (ascii low (by simp)) isLow
    simp only [List.cons_append, List.nil_append, Percent.decodeBytes, highValue, lowValue]
    rfl

theorem decodeBytes_of_dots {segment : List Char} {forms : List (List Char)}
    (dots : ∀ form ∈ forms, IsDot form) (ascii : ∀ character ∈ segment, character.toNat < 128)
    (lower : segment.map Char.toLower = forms.flatten) :
    Percent.decodeBytes segment = List.replicate forms.length 46 := by
  induction forms generalizing segment with
  | nil =>
    rw [List.flatten_nil, List.map_eq_nil_iff] at lower
    rw [lower]
    rfl
  | cons form forms induction =>
    rw [List.forall_mem_cons] at dots
    rcases List.map_eq_append_iff.mp lower with ⟨front, behind, rfl, isForm, rest⟩
    rw [List.forall_mem_append] at ascii
    rw [decodeBytes_of_isDot dots.1 ascii.1 isForm, induction dots.2 ascii.2 rest]
    rfl

section Dots

variable {segment : List Char} (ascii : ∀ character ∈ segment, character.toNat < 128)

include ascii

theorem decode_of_isSingleDot (dot : isSingleDot segment = true) :
    Percent.decode segment = "." := by
  simp only [isSingleDot, Bool.or_eq_true, decide_eq_true_eq] at dot
  have forms : ∃ form, IsDot form ∧ segment.map Char.toLower = [form].flatten := by
    rcases dot with lower | lower
    · exact ⟨_, .inl rfl, lower⟩
    · exact ⟨_, .inr rfl, lower⟩
  rcases forms with ⟨form, isDot, lower⟩
  rw [Percent.decode, decodeBytes_of_dots (by simpa using isDot) ascii lower]
  rfl

theorem decode_of_isDoubleDot (dots : isDoubleDot segment = true) :
    Percent.decode segment = ".." := by
  simp only [isDoubleDot, Bool.or_eq_true, decide_eq_true_eq] at dots
  have forms : ∃ first second, IsDot first ∧ IsDot second ∧
      segment.map Char.toLower = [first, second].flatten := by
    rcases dots with ((lower | lower) | lower) | lower
    · exact ⟨_, _, .inl rfl, .inl rfl, lower⟩
    · exact ⟨_, _, .inr rfl, .inl rfl, lower⟩
    · exact ⟨_, _, .inl rfl, .inr rfl, lower⟩
    · exact ⟨_, _, .inr rfl, .inr rfl, lower⟩
  rcases forms with ⟨first, second, isFirst, isSecond, lower⟩
  rw [Percent.decode, decodeBytes_of_dots (by simp [isFirst, isSecond]) ascii lower]
  rfl

end Dots

/-- An encoded name is one segment, unless the name is a point or two. -/
theorem resolve_encode (name : List Char) :
    resolve [] [Percent.encode Char.isAlphanum name] =
      if name = ['.'] ∨ name = ['.', '.'] then [[]] else [Percent.encode Char.isAlphanum name] := by
  have ascii : ∀ character ∈ Percent.encode Char.isAlphanum name, character.toNat < 128 := by
    intro character member
    have bounds := bounds_of_isWritten (isWritten_of_mem_encode member)
    omega
  have read : Percent.decode (Percent.encode Char.isAlphanum name) = String.ofList name :=
    Percent.decode_encode (by decide) name
  split
  · next dots => rcases dots with rfl | rfl <;> decide
  · next plain =>
    rw [not_or] at plain
    have single : isSingleDot (Percent.encode Char.isAlphanum name) = false := by
      rw [Bool.eq_false_iff]
      intro dot
      rw [decode_of_isSingleDot ascii dot] at read
      exact plain.1 (by simpa using congrArg String.toList read.symm)
    have double : isDoubleDot (Percent.encode Char.isAlphanum name) = false := by
      rw [Bool.eq_false_iff]
      intro dots
      rw [decode_of_isDoubleDot ascii dots] at read
      exact plain.2 (by simpa using congrArg String.toList read.symm)
    simp [resolve, single, double]

end SqlGateway.Url
