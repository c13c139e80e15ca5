import SqlGateway.Connection.Url
import SqlGateway.Proofs.Url.Reading

/-!
# Reading back written connections

A connection is written with an id, a scheme, a name, a password, a host, a port and a database, of
which name, password and database are percent-encoded down to letters and digits. It is always read,
and all parts come back but the database, which is left in its encoded form (`parse_written`).
When any text is read, and what is then read of it, is said once (`parse_eq_ok_iff`,
`ofUrl_eq_ok_iff`).
-/

namespace SqlGateway

namespace Engine

def schemes : List (String × Engine) :=
  [("postgres", .postgres), ("postgresql", .postgres), ("mysql", .mySql), ("mariadb", .mySql),
    ("mssql", .sqlServer), ("sqlserver", .sqlServer)]

theorem mem_schemes_of_ofScheme? {scheme : String} {engine : Engine}
    (known : ofScheme? scheme = some engine) : (Text.lowerAscii scheme, engine) ∈ schemes := by
  unfold ofScheme? at known
  split at known <;> simp_all [schemes]

theorem word_of_mem_schemes {scheme : String} {engine : Engine}
    (listed : (scheme, engine) ∈ schemes) :
    scheme.toList ≠ [] ∧ (∀ letter ∈ scheme.toList, letter.isAlpha = true) ∧
      Url.webSchemes.contains scheme = false ∧ scheme ≠ "file" := by
  have all : schemes.all (fun pair => !pair.1.toList.isEmpty && pair.1.toList.all Char.isAlpha &&
      !Url.webSchemes.contains pair.1 && pair.1 != "file") = true := by decide
  have facts := List.all_eq_true.mp all _ listed
  simp only [Bool.and_eq_true, Bool.not_eq_true', List.isEmpty_eq_false_iff, List.all_eq_true,
    bne_iff_ne] at facts
  rcases facts with ⟨⟨⟨nonempty, letters⟩, offWeb⟩, offDisk⟩
  exact ⟨nonempty, letters, offWeb, offDisk⟩

theorem ofScheme?_of_mem_schemes {scheme : String} {engine : Engine}
    (listed : (scheme, engine) ∈ schemes) : ofScheme? scheme = some engine := by
  have all : schemes.all (fun pair => decide (ofScheme? pair.1 = some pair.2)) = true := by decide
  have known := List.all_eq_true.mp all _ listed
  simpa only [decide_eq_true_eq] using known

end Engine

namespace Definition

theorem beforeSlashes_append {front : List Char} (absent : ':' ∉ front) (rest : List Char) :
    cutId.beforeSlashes (front ++ rest) = front ++ cutId.beforeSlashes rest := by
  induction front with
  | nil => rfl
  | cons first more induction =>
    rw [List.mem_cons, not_or] at absent
    rw [List.cons_append, cutId.beforeSlashes, induction absent.2, List.cons_append]
    rintro rest same -
    exact absent.1 same.symm

theorem isPrefix_beforeSlashes (text : List Char) : cutId.beforeSlashes text <+: text := by
  fun_induction cutId.beforeSlashes text with
  | case1 => exact List.nil_prefix
  | case2 => exact List.nil_prefix
  | case3 first rest _ induction => exact (List.prefix_cons_inj first).mpr induction

theorem cutId_append {id : List Char} (noEquals : '=' ∉ id) (noColon : ':' ∉ id)
    (text : List Char) : cutId (id ++ '=' :: text) = (some id, text) := by
  have absent : ':' ∉ id ++ ['='] := by simp [noColon]
  have front : cutId.beforeSlashes (id ++ '=' :: text) =
      id ++ '=' :: cutId.beforeSlashes text := by
    have before := beforeSlashes_append absent text
    rwa [List.append_assoc, List.append_assoc] at before
  rcases isPrefix_beforeSlashes text with ⟨behind, split⟩
  have whole : id ++ '=' :: text = (id ++ '=' :: cutId.beforeSlashes text) ++ behind := by
    rw [List.append_assoc, List.cons_append, split]
  rw [cutId, front, whole, List.take_left, List.drop_left, Text.cut_append noEquals]
  exact congrArg (Prod.mk (some id)) split

theorem isBlank_of_isIdChar {character : Char} (inId : isIdChar character = true) :
    Text.isBlank character = false := by
  simp only [isIdChar, Bool.or_eq_true, decide_eq_true_eq] at inId
  rcases inId with (alphanumeric | rfl) | rfl
  · exact Text.isBlank_of_isAlphanumeric alphanumeric
  · decide
  · decide

structure IsName (name : String) : Prop where
  ne_empty : name ≠ ""
  valid : ∀ character ∈ name.toList, isIdChar character = true
  free : Text.sameIgnoringCase name defaultId = false

/-! ## When a definition is read -/

theorem ofUrl_eq_ok_iff {id : Option String} {url : Url} {definition : Definition} :
    ofUrl id url = .ok definition ↔
      ∃ engine host, Engine.ofScheme? url.scheme = some engine ∧
        (limitsOf url.query).problem? = none ∧ url.host = some host ∧
        ofParts id engine host url = .ok definition := by
  rw [ofUrl]
  cases known : Engine.ofScheme? url.scheme with
  | none => simp
  | some engine =>
    cases checked : (limitsOf url.query).problem? with
    | some problem => simp
    | none =>
      cases hosted : url.host with
      | none => simp
      | some host => cases parts : ofParts id engine host url <;> simp [Except.mapError, parts]

theorem parse_eq_ok_iff {text : String} {definition : Definition} :
    parse text = .ok definition ↔
      (((cutId text.toList).1.map Text.trimChars).any fun id =>
          Text.sameIgnoringCase (String.ofList id) defaultId) = false ∧
        ∃ url, Url.parse (String.ofList (cutId text.toList).2) = .ok url ∧
          ofUrl (((cutId text.toList).1.map Text.trimChars).map String.ofList) url =
            .ok definition := by
  rw [parse]
  rcases cutId text.toList with ⟨id, written⟩
  by_cases reserved : ((id.map Text.trimChars).any fun id =>
      Text.sameIgnoringCase (String.ofList id) defaultId) = true
  · simp [reserved]
  · cases parsed : Url.parse (String.ofList written) <;> simp [reserved, parsed]

theorem parse_eq_ok_iff_of_isName {name text : String} (named : IsName name)
    {definition : Definition} : parse (name ++ "=" ++ text) = .ok definition ↔
      ∃ url, Url.parse text = .ok url ∧ ofUrl (some name) url = .ok definition := by
  have noEquals : '=' ∉ name.toList := Text.not_mem_of_refused named.valid (by decide)
  have noColon : ':' ∉ name.toList := Text.not_mem_of_refused named.valid (by decide)
  have visible : ∀ character ∈ name.toList, Text.isBlank character = false :=
    fun character member => isBlank_of_isIdChar (named.valid character member)
  have trimmed : Text.trimChars name.toList = name.toList := Text.trimmed_of_inside visible
  have parts : (name ++ "=" ++ text).toList = name.toList ++ '=' :: text.toList := by simp
  simp only [parse_eq_ok_iff, parts, cutId_append noEquals noColon, Option.map_some,
    Option.any_some, trimmed, String.ofList_toList, named.free, true_and]

/-! ## What is written -/

structure Written where
  id : String
  scheme : String
  username : String
  password : String
  host : String
  port : UInt16
  database : String

namespace Written

def encodedChars (name : String) : List Char := Url.Percent.encode Char.isAlphanum name.toList

def encoded (name : String) : String := String.ofList (encodedChars name)

def url (written : Written) : String :=
  written.scheme ++ "://" ++ encoded written.username ++ ":" ++ encoded written.password ++ "@" ++
    written.host ++ ":" ++ toString written.port.toNat ++ "/" ++ encoded written.database

def text (written : Written) : String := written.id ++ "=" ++ written.url

/-- The id can be given to a connection, the scheme is one of the engine in either case, the host
means itself, and nothing is left out. -/
structure Sound (written : Written) (engine : Engine) : Prop where
  id_ne : written.id ≠ ""
  id_valid : ∀ character ∈ written.id.toList, isIdChar character = true
  id_free : Text.sameIgnoringCase written.id defaultId = false
  scheme_known : Engine.ofScheme? written.scheme = some engine
  username_ne : written.username ≠ ""
  password_ne : written.password ≠ ""
  host_ne : written.host ≠ ""
  host_plain : ∀ character ∈ written.host.toList, Url.Host.isPlain character = true
  database_ne : written.database ≠ ""

instance {written : Written} {engine : Engine} : Decidable (written.Sound engine) :=
  decidable_of_iff
    (written.id ≠ "" ∧ written.id.toList.all isIdChar = true ∧
      Text.sameIgnoringCase written.id defaultId = false ∧
      Engine.ofScheme? written.scheme = some engine ∧ written.username ≠ "" ∧
      written.password ≠ "" ∧ written.host ≠ "" ∧
      written.host.toList.all Url.Host.isPlain = true ∧ written.database ≠ "")
    ⟨fun ⟨id_ne, id_valid, id_free, scheme_known, username_ne, password_ne, host_ne, host_plain,
        database_ne⟩ =>
      ⟨id_ne, List.all_eq_true.mp id_valid, id_free, scheme_known, username_ne, password_ne,
        host_ne, List.all_eq_true.mp host_plain, database_ne⟩,
    fun sound =>
      ⟨sound.id_ne, List.all_eq_true.mpr sound.id_valid, sound.id_free, sound.scheme_known,
        sound.username_ne, sound.password_ne, sound.host_ne,
        List.all_eq_true.mpr sound.host_plain, sound.database_ne⟩⟩

theorem toList_url (written : Written) :
    written.url.toList = written.scheme.toList ++ ':' :: '/' :: '/' ::
      (Url.authority (encodedChars written.username) (encodedChars written.password)
        written.host.toList written.port ++ '/' :: encodedChars written.database) := by
  simp [url, encoded, Url.authority, Nat.toString_eq_repr, Nat.toList_repr]

theorem encodedChars_ne_nil {name : String} (named : name ≠ "") : encodedChars name ≠ [] := by
  intro empty
  have least : name.toList.length ≤ (encodedChars name).length :=
    Url.Percent.length_le_length_encode name.toList
  rw [empty, List.length_nil, Nat.le_zero, List.length_eq_zero_iff,
    String.toList_eq_nil_iff] at least
  exact named least

theorem isWritten_of_mem_encodedChars {name : String} {character : Char}
    (member : character ∈ encodedChars name) : Url.isWritten character = true :=
  Url.isWritten_of_mem_encode member

theorem decode_encodedChars (name : String) : Url.Percent.decode (encodedChars name) = name := by
  rw [encodedChars, Url.Percent.decode_encode (by decide), String.ofList_toList]

/-! ## What is read -/

def readDatabase (name : String) : Option String :=
  if name = "." ∨ name = ".." then none else some (encoded name)

def read (written : Written) (engine : Engine) : Definition where
  id := written.id
  engine
  host := written.host
  port := some written.port
  username := some written.username
  password := some written.password
  database := readDatabase written.database
  showAllDatabases := false
  ssl := false
  trustServerCertificate := false
  limits := .standard

theorem databaseOf_resolve {name : String} (named : name ≠ "") :
    databaseOf (Url.resolve [] [encodedChars name]) = readDatabase name := by
  have point : name.toList = ['.'] ↔ name = "." := by simp [← String.toList_inj]
  have points : name.toList = ['.', '.'] ↔ name = ".." := by simp [← String.toList_inj]
  simp only [encodedChars, Url.resolve_encode, readDatabase, point, points]
  split
  · rfl
  · have more : (Url.Percent.encode Char.isAlphanum name.toList).isEmpty = false :=
      List.isEmpty_eq_false_iff.mpr (encodedChars_ne_nil named)
    simp [databaseOf, more, encoded, encodedChars]

theorem readDatabase_eq_some_iff {name : String} :
    readDatabase name = some name ↔ ∀ character ∈ name.toList, character.isAlphanum = true := by
  have same : encoded name = name ↔ ∀ character ∈ name.toList, character.isAlphanum = true := by
    rw [← Url.Percent.encode_eq_self_iff, ← String.toList_inj, encoded, String.toList_ofList,
      encodedChars]
  rw [readDatabase]
  split
  · next dots =>
    refine iff_of_false nofun fun letters => ?_
    rcases dots with rfl | rfl
    · exact absurd (letters '.' (by decide)) (by decide)
    · exact absurd (letters '.' (by decide)) (by decide)
  · rw [Option.some.injEq, same]

theorem decode_of_readDatabase {name shown : String} (read : readDatabase name = some shown) :
    Url.Percent.decode shown.toList = name := by
  rw [readDatabase] at read
  split at read
  · cases read
  · cases read
    rw [encoded, String.toList_ofList, decode_encodedChars]

section Read

variable {written : Written} {engine : Engine} (sound : written.Sound engine)

include sound

theorem Sound.scheme_listed : (Text.lowerAscii written.scheme, engine) ∈ Engine.schemes :=
  Engine.mem_schemes_of_ofScheme? sound.scheme_known

theorem Sound.scheme_letters :
    written.scheme.toList ≠ [] ∧ ∀ letter ∈ written.scheme.toList, letter.isAlpha = true := by
  rcases Engine.word_of_mem_schemes sound.scheme_listed with ⟨nonempty, letters, -⟩
  rw [Text.lowerAscii, String.toList_ofList] at nonempty letters
  refine ⟨by simpa using nonempty, fun letter member => ?_⟩
  exact Text.isAlpha_of_toLower (letters _ (List.mem_map_of_mem member))

theorem Sound.parse_url :
    Url.parse written.url = .ok {
      scheme := Text.lowerAscii written.scheme
      username := written.username
      password := some written.password
      host := some written.host
      port := some written.port
      path := Url.resolve [] [encodedChars written.database]
      query := [] } := by
  rcases Engine.word_of_mem_schemes sound.scheme_listed with ⟨-, -, offWeb, offDisk⟩
  rcases sound.scheme_letters with ⟨schemed, letters⟩
  rw [← String.ofList_toList (s := written.url), toList_url,
    Url.parse_authority written.port (fun _ => isWritten_of_mem_encodedChars)
      (fun _ => isWritten_of_mem_encodedChars) sound.host_plain
      (fun _ => isWritten_of_mem_encodedChars) (encodedChars_ne_nil sound.username_ne)
      (encodedChars_ne_nil sound.password_ne) (mt String.toList_eq_nil_iff.mp sound.host_ne)
      letters schemed offWeb offDisk,
    decode_encodedChars, decode_encodedChars, String.ofList_toList]
  rfl

theorem Sound.make_eq : make written.id engine written.host = .ok {
    id := written.id, engine, host := written.host, port := none, username := none,
    password := none, database := none, showAllDatabases := false, ssl := false,
    trustServerCertificate := false, limits := .standard } := by
  have inId : written.id.toList.all isIdChar = true := List.all_eq_true.mpr sound.id_valid
  have visible : ∀ character ∈ written.host.toList, Text.isBlank character = false := by
    intro character member
    rcases Url.Host.visible_of_isPlain (sound.host_plain character member) with ⟨least, most⟩
    exact Text.isBlank_of_visible least (by omega)
  have trimmed : Text.trimChars written.host.toList ≠ [] := by
    rw [Text.trimChars, Text.trimmed_of_inside visible]
    exact mt String.toList_eq_nil_iff.mp sound.host_ne
  rw [make, if_neg sound.id_ne, inId, if_neg trimmed]
  rfl

theorem Sound.parse_text : parse written.text = .ok (written.read engine) := by
  have named : IsName written.id := ⟨sound.id_ne, sound.id_valid, sound.id_free⟩
  have engineOfScheme := Engine.ofScheme?_of_mem_schemes sound.scheme_listed
  have usable : (limitsOf []).problem? = none := by decide
  refine (parse_eq_ok_iff_of_isName named).mpr ⟨_, sound.parse_url, ?_⟩
  refine ofUrl_eq_ok_iff.mpr ⟨engine, written.host, engineOfScheme, usable, rfl, ?_⟩
  simp only [ofParts, Option.getD_some, sound.make_eq, if_neg sound.username_ne,
    databaseOf_resolve sound.database_ne]
  rfl

end Read

end Written

/-- A connection that was written with encoded name, password and database is read, and everything
comes back but the database: it is left encoded, and it is lost if it is a point or two. So it comes
back exactly if it consists of letters and digits. -/
theorem parse_written {written : Written} {engine : Engine} (sound : written.Sound engine) :
    parse written.text = .ok (written.read engine) ∧
      ((written.read engine).database = none ↔ written.database = "." ∨ written.database = "..") ∧
      (∀ database, (written.read engine).database = some database →
        Url.Percent.decode database.toList = written.database) ∧
      ((written.read engine).database = some written.database ↔
        ∀ character ∈ written.database.toList, character.isAlphanum = true) := by
  refine ⟨sound.parse_text, ?lost, fun database => Written.decode_of_readDatabase,
    Written.readDatabase_eq_some_iff⟩
  case lost =>
    rw [Written.read, Written.readDatabase]
    split
    · next dots => exact iff_of_true rfl dots
    · next plain => exact iff_of_false nofun plain

/-- Blanks, separators, percent signs and letters outside ASCII in all that is written. -/
theorem parse_written_marked :
    let written : Written :=
      ⟨"crm_é", "PostgreSQL", "al ice/@", "p:%é😀", "db.local", 5433, "my shop"⟩
    written.text = "crm_é=PostgreSQL://al%20ice%2F%40:p%3A%25%C3%A9%F0%9F%98%80" ++
        "@db.local:5433/my%20shop" ∧
      written.Sound .postgres ∧
      ∃ definition, parse written.text = .ok definition ∧ definition.username = some "al ice/@" ∧
        definition.password = some "p:%é😀" ∧ definition.database = some "my%20shop" := by
  intro written
  have sound : written.Sound .postgres := by decide
  exact ⟨by decide, sound, _, (parse_written sound).1, rfl, rfl, by decide⟩

/-- The database does not come back where there is a blank in its name. -/
theorem not_parse_written_database :
    ¬∀ (written : Written) (engine : Engine), written.Sound engine →
      ∃ definition, parse written.text = .ok definition ∧ definition.id = written.id ∧
        definition.engine = engine ∧ definition.host = written.host ∧
        definition.port = some written.port ∧ definition.username = some written.username ∧
        definition.password = some written.password ∧
        definition.database = some written.database := by
  intro claimed
  let written : Written := ⟨"crm", "mysql", "al ice", "p@ss", "db.local", 3307, "my shop"⟩
  have sound : written.Sound .mySql := by decide
  rcases claimed _ _ sound with ⟨definition, read, -, -, -, -, -, -, database⟩
  rw [sound.parse_text, Except.ok.injEq] at read
  subst read
  exact absurd database (by decide)

end Definition

end SqlGateway
