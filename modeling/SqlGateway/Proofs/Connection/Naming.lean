import SqlGateway.Proofs.Connection.Reading

/-!
# Connections that are given an id

An id in front of a connection text names the connection and changes nothing else of it
(`parse_named`): wherever the text has an `=` or a `://` of its own, the cut is made behind the id.
The word that stands for a missing id is refused in every case of its letters, also between blanks.
-/

namespace SqlGateway.Definition

/-- Every `=` of a text stands behind a `://`, so that nothing in front of one is an id. -/
def Unnamed (text : List Char) : Prop :=
  ∀ before behind, text = before ++ '=' :: behind → Text.occursIn "://".toList before = true

/-! ## Where the text is cut -/

theorem occursIn_beforeSlashes (text : List Char) :
    Text.occursIn "://".toList (cutId.beforeSlashes text) = false := by
  fun_induction cutId.beforeSlashes text with
  | case1 => rfl
  | case2 => rfl
  | case3 first rest other induction =>
    rw [Text.occursIn, induction, Bool.or_false, Bool.eq_false_iff]
    intro starts
    rcases List.isPrefixOf_iff_prefix.mp starts with ⟨more, same⟩
    rcases List.cons_eq_cons.mp same with ⟨colon, slashes⟩
    rcases isPrefix_beforeSlashes rest with ⟨behind, split⟩
    exact other (more ++ behind) colon.symm (by rw [← split, ← slashes]; rfl)

theorem beforeSlashes_ends (text : List Char) :
    text = cutId.beforeSlashes text ∨
      ∃ rest, text = cutId.beforeSlashes text ++ "://".toList ++ rest := by
  fun_induction cutId.beforeSlashes text with
  | case1 => exact .inl rfl
  | case2 rest => exact .inr ⟨rest, rfl⟩
  | case3 first rest _ induction =>
    rcases induction with whole | ⟨more, whole⟩
    · exact .inl (congrArg (first :: ·) whole)
    · exact .inr ⟨more, congrArg (first :: ·) whole⟩

theorem unnamed_append {front : List Char} (absent : '=' ∉ front) (rest : List Char) :
    Unnamed (front ++ "://".toList ++ rest) := by
  have clear : '=' ∉ front ++ "://".toList := by simp [absent]
  intro before behind split
  rcases List.append_eq_append_iff.mp split with ⟨more, rfl, -⟩ | ⟨more, within, tail⟩
  · exact Text.occursIn_iff.mpr ⟨front, more, rfl⟩
  · cases more with
    | nil => exact Text.occursIn_iff.mpr ⟨front, [], by simpa using within.symm⟩
    | cons mark more =>
      rw [within, (List.cons_eq_cons.mp tail).1] at clear
      exact absurd (List.mem_append_right before List.mem_cons_self) clear

theorem unnamed_iff {text : List Char} : Unnamed text ↔ '=' ∉ cutId.beforeSlashes text := by
  constructor
  · intro unnamed member
    rcases List.append_of_mem member with ⟨before, behind, found⟩
    rcases isPrefix_beforeSlashes text with ⟨rest, split⟩
    have whole : text = before ++ '=' :: (behind ++ rest) := by
      rw [← split, found, List.append_assoc, List.cons_append]
    rcases Text.occursIn_iff.mp (unnamed before (behind ++ rest) whole) with ⟨front, back, rfl⟩
    have left : Text.occursIn "://".toList (cutId.beforeSlashes text) = true :=
      Text.occursIn_iff.mpr ⟨front, back ++ '=' :: behind, by simp [found]⟩
    rw [occursIn_beforeSlashes] at left
    cases left
  · intro absent
    rcases beforeSlashes_ends text with all | ⟨rest, split⟩
    · rw [← all] at absent
      rintro before behind rfl
      exact absurd (List.mem_append_right before List.mem_cons_self) absent
    · rw [split]
      exact unnamed_append absent rest

instance {text : List Char} : Decidable (Unnamed text) := decidable_of_iff _ unnamed_iff.symm

theorem cutId_of_unnamed {text : List Char} (unnamed : Unnamed text) :
    cutId text = (none, text) := by
  have front : text.take (cutId.beforeSlashes text).length = cutId.beforeSlashes text :=
    (List.prefix_iff_eq_take.mp (isPrefix_beforeSlashes text)).symm
  rw [cutId, front, Text.cut_of_not_mem (unnamed_iff.mp unnamed)]

/-! ## What the id changes -/

section Renaming

variable {name : String} (named : IsName name)

include named

theorem make_renamed {id : String} {engine : Engine} {host : String} {definition : Definition}
    (made : make id engine host = .ok definition) :
    make name engine host = .ok { definition with id := name } := by
  have valid : name.toList.all isIdChar = true := List.all_eq_true.mpr named.valid
  rw [make] at made ⊢
  split at made
  · cases made
  · split at made
    · cases made
    · split at made
      · cases made
      · next visible =>
        cases made
        rw [if_neg named.ne_empty, valid, if_neg visible]
        rfl

theorem ofParts_renamed {id : Option String} {engine : Engine} {host : String} {url : Url}
    {definition : Definition} (read : ofParts id engine host url = .ok definition) :
    ofParts (some name) engine host url = .ok { definition with id := name } := by
  rw [ofParts] at read ⊢
  cases made : make (id.getD ((databaseOf url.path).getD defaultId)) engine host with
  | error problem =>
    rw [made] at read
    cases read
  | ok bare =>
    rw [made] at read
    cases read
    rw [Option.getD_some, make_renamed named made]
    rfl

theorem ofUrl_renamed {id : Option String} {url : Url} {definition : Definition}
    (read : ofUrl id url = .ok definition) :
    ofUrl (some name) url = .ok { definition with id := name } := by
  rcases ofUrl_eq_ok_iff.mp read with ⟨engine, host, known, sound, hosted, parts⟩
  exact ofUrl_eq_ok_iff.mpr ⟨engine, host, known, sound, hosted, ofParts_renamed named parts⟩

theorem parse_append {text : String} {definition : Definition}
    (unnamed : Unnamed text.toList) (read : parse text = .ok definition) :
    parse (name ++ "=" ++ text) = .ok { definition with id := name } := by
  simp only [parse_eq_ok_iff, cutId_of_unnamed unnamed, Option.map_none, Option.any_none,
    String.ofList_toList, true_and] at read
  rcases read with ⟨url, parsed, defined⟩
  exact (parse_eq_ok_iff_of_isName named).mpr ⟨url, parsed, ofUrl_renamed named defined⟩

end Renaming

/-! ## The word for a missing id -/

theorem isAlpha_of_sameIgnoringCase {word : String}
    (reserved : Text.sameIgnoringCase word defaultId = true) :
    word.toList ≠ [] ∧ ∀ letter ∈ word.toList, letter.isAlpha = true := by
  have lower : word.toList.map Char.toLower = defaultId.toList.map Char.toLower :=
    String.ofList_injective (of_decide_eq_true reserved)
  refine ⟨fun empty => ?_, fun letter member => Text.isAlpha_of_toLower ?_⟩
  · rw [empty] at lower
    exact absurd lower (by decide)
  · have letters : (defaultId.toList.map Char.toLower).all Char.isAlpha = true := by decide
    exact List.all_eq_true.mp letters _ (lower ▸ List.mem_map_of_mem member)

theorem parse_reserved {before word after : String}
    (front : ∀ character ∈ before.toList, Text.isBlank character = true)
    (back : ∀ character ∈ after.toList, Text.isBlank character = true)
    (reserved : Text.sameIgnoringCase word defaultId = true) (text : String) :
    parse (before ++ word ++ after ++ "=" ++ text) = .error .reservedId := by
  rcases isAlpha_of_sameIgnoringCase reserved with ⟨nonempty, letters⟩
  have visible : ∀ character ∈ word.toList, Text.isBlank character = false := by
    intro character member
    have bounds := Text.bounds_of_isAlphanum (Text.isAlphanum_of_isAlpha (letters _ member))
    exact Text.isBlank_of_visible (by omega) (by omega)
  have absent : ∀ mark, Text.isBlank mark = false → mark.isAlpha = false →
      mark ∉ before.toList ++ (word.toList ++ after.toList) := by
    intro mark visible other
    rw [List.mem_append, List.mem_append, not_or, not_or]
    exact ⟨Text.not_mem_of_refused front visible, Text.not_mem_of_refused letters other,
      Text.not_mem_of_refused back visible⟩
  have parts : (before ++ word ++ after ++ "=" ++ text).toList =
      (before.toList ++ (word.toList ++ after.toList)) ++ '=' :: text.toList := by simp
  have trimmed : Text.trimChars (before.toList ++ (word.toList ++ after.toList)) = word.toList :=
    Text.trimmed_between visible nonempty front back
  simp only [parse, parts,
    cutId_append (absent '=' (by decide) (by decide)) (absent ':' (by decide) (by decide)),
    Option.map_some, Option.any_some, trimmed, String.ofList_toList, reserved, if_true]

/-! ## The law -/

/-- A connection text that names no id and is read is also read with an id in front of it, as the
same connection under this id. An id that is the reserved word in any case of its letters, with
blanks on both sides or none, is refused whatever the text says. -/
theorem parse_named :
    (∀ {name text : String} {definition : Definition}, IsName name → Unnamed text.toList →
      parse text = .ok definition →
        parse (name ++ "=" ++ text) = .ok { definition with id := name }) ∧
      ∀ {before word after : String} (text : String),
        (∀ character ∈ before.toList, Text.isBlank character = true) →
        (∀ character ∈ after.toList, Text.isBlank character = true) →
        Text.sameIgnoringCase word defaultId = true →
          parse (before ++ word ++ after ++ "=" ++ text) = .error .reservedId :=
  ⟨fun named unnamed read => parse_append named unnamed read,
    fun text front back reserved => parse_reserved front back reserved text⟩

/-- Each sign that ends an id or starts an authority once more behind the authority. -/
theorem parse_named_marked :
    let text := " mysql://al:s=1@h/shop?back=a=x://y&ssl=TRUE"
    let definition : Definition := {
      id := "shop", engine := .mySql, host := "h", port := none, username := some "al",
      password := some "s=1", database := some "shop", showAllDatabases := false, ssl := true,
      trustServerCertificate := false, limits := .standard }
    IsName "crm-é" ∧ Unnamed text.toList ∧ parse text = .ok definition ∧
      parse ("crm-é" ++ "=" ++ text) = .ok { definition with id := "crm-é" } ∧
      parse ("\t" ++ "Default" ++ " " ++ "=" ++ text) = .error .reservedId := by
  intro text definition
  have named : IsName "crm-é" := ⟨by decide, List.all_eq_true.mp (by decide), by decide⟩
  have unnamed : Unnamed text.toList := by decide
  have read : parse " mysql://al:s=1@h/shop?back=a=x://y&ssl=TRUE" = .ok definition := rfl
  exact ⟨named, unnamed, read, parse_named.1 named unnamed read,
    parse_named.2 text (List.all_eq_true.mp (by decide)) (List.all_eq_true.mp (by decide))
      (by decide)⟩

end SqlGateway.Definition
