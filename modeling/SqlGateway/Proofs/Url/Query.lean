import SqlGateway.Proofs.Text.Classes
import SqlGateway.Url.Basic

/-!
# What the query of a URL leaves alone

Nothing behind the first `?` reaches in front of it: whether a text is a URL, and which scheme,
credentials, host, port and path it has, is the same for every query (`withoutQuery_parse`).
-/

namespace SqlGateway.Url

def withoutQuery (url : Url) : Url := { url with query := [] }

def marked (front query : List Char) : List Char := front ++ '?' :: query

theorem append_marked (before front query : List Char) :
    before ++ marked front query = marked (before ++ front) query := by
  rw [marked, marked, List.append_assoc]

section Runs

variable {isMember : Char → Bool} (stops : isMember '?' = false) (front query : List Char)

include stops

theorem takeWhile_marked : (marked front query).takeWhile isMember = front.takeWhile isMember :=
  Text.takeWhile_append_stop stops front query

theorem dropWhile_marked :
    (marked front query).dropWhile isMember = marked (front.dropWhile isMember) query :=
  Text.dropWhile_append_stop stops front query

end Runs

/-! ## The pieces of the text -/

/-- What counts of a text in front of a `?`. -/
def significantFront (front : List Char) : List Char :=
  (front.dropWhile fun character => character.toNat ≤ 32).filter
    fun character => character ∉ ['\t', '\n', '\r']

theorem significant_marked (front query : List Char) :
    ∃ rest, significant (marked front query) = marked (significantFront front) rest := by
  have margin : decide ('?'.toNat ≤ 32) = false := by decide
  refine ⟨((query.reverse.dropWhile fun character => character.toNat ≤ 32).reverse).filter
    fun character => character ∉ ['\t', '\n', '\r'], ?_⟩
  simp only [significant, marked, significantFront]
  rw [Text.dropWhile_append_stop margin, List.reverse_append, List.reverse_cons, List.append_assoc,
    List.singleton_append, Text.dropWhile_append_stop margin, List.reverse_append,
    List.reverse_cons, List.reverse_reverse, List.append_assoc, List.singleton_append,
    List.filter_append, List.filter_cons_of_pos (by decide)]

theorem scheme?_marked (front query : List Char) :
    scheme? (marked front query) =
      (scheme? front).map fun (scheme, rest) => (scheme, marked rest query) := by
  have stops : isSchemeChar '?' = false := by decide
  have back := Text.dropWhile_append_stop stops front query
  have run := Text.takeWhile_append_stop stops front query
  cases front with
  | nil => rfl
  | cons first more =>
    rw [List.cons_append] at back run
    simp only [scheme?, marked, List.cons_append, back, run]
    split
    · rfl
    · cases behind : (first :: more).dropWhile isSchemeChar with
      | nil => simp
      | cons next rest =>
        by_cases colon : next = ':'
        · simp [colon]
        · simp [colon]

/-! ## Authorities -/

theorem cutAuthority_marked (authority front left right : List Char) :
    cutAuthority authority (marked front left) = cutAuthority authority (marked front right) := by
  simp [cutAuthority, marked]

theorem withoutQuery_withAuthority (scheme : String) (front left right : List Char) :
    (withAuthority scheme (marked front left)).map withoutQuery =
      (withAuthority scheme (marked front right)).map withoutQuery := by
  simp (disch := decide) only [withAuthority, takeWhile_marked, dropWhile_marked, append_marked,
    cutAuthority_marked _ _ left right]
  cases cutAuthority _ _ with
  | error problem => rfl
  | ok parts =>
    rcases parts with ⟨username, password, hostAndPort⟩
    simp only
    cases Host.plain (cutHost false hostAndPort).1 with
    | error problem => rfl
    | ok host =>
      simp only
      split
      · rfl
      · cases portNumber 0 false ((cutHost false hostAndPort).2.drop 1) with
        | error problem => rfl
        | ok port =>
          simp only
          split
          · rfl
          · rfl

theorem withoutQuery_withoutAuthority (scheme : String) (front left right : List Char) :
    (withoutAuthority scheme (marked front left)).withoutQuery =
      (withoutAuthority scheme (marked front right)).withoutQuery := by
  simp (disch := decide) only [withoutAuthority, withoutQuery, takeWhile_marked]

/-! ## URLs of the web -/

theorem checkWeb_marked (front left right : List Char) :
    checkWeb (marked front left) = checkWeb (marked front right) := by
  simp (disch := decide) only [checkWeb, takeWhile_marked, dropWhile_marked,
    cutAuthority_marked _ _ left right]

theorem checkFile_marked (front left right : List Char) :
    checkFile (marked front left) = checkFile (marked front right) := by
  have short (first : Char) (query : List Char) :
      checkFile (first :: '?' :: query) = .ok () := by simp [checkFile, isPathEnd]
  have bare (query : List Char) : checkFile ('?' :: query) = .ok () := by
    cases query with
    | nil => rfl
    | cons second rest => simp [checkFile, isPathEnd]
  rcases front with _ | ⟨first, _ | ⟨second, rest⟩⟩
  · simp only [marked, List.nil_append, bare]
  · simp only [marked, List.singleton_append, short]
  · have parts (query : List Char) :
        marked (first :: second :: rest) query = first :: second :: marked rest query := rfl
    simp (disch := decide) only [parts, checkFile, takeWhile_marked]

/-! ## Whole URLs -/

theorem slashes_or_not (front : List Char) :
    (∃ authority, front = '/' :: '/' :: authority) ∨
      ∀ query authority, marked front query ≠ '/' :: '/' :: authority := by
  rcases front with _ | ⟨first, _ | ⟨second, rest⟩⟩
  · exact .inr (by simp [marked])
  · exact .inr (by simp [marked])
  · by_cases slashes : first = '/' ∧ second = '/'
    · exact .inl ⟨rest, by rw [slashes.1, slashes.2]⟩
    · refine .inr fun query authority same => slashes ?_
      simp only [marked, List.cons_append, List.cons.injEq] at same
      exact ⟨same.1, same.2.1⟩

theorem withoutQuery_parse (front left right : List Char) :
    (parse (String.ofList (marked front left))).map withoutQuery =
      (parse (String.ofList (marked front right))).map withoutQuery := by
  rcases significant_marked front left with ⟨leftRest, leftShape⟩
  rcases significant_marked front right with ⟨rightRest, rightShape⟩
  simp only [parse, String.toList_ofList, leftShape, rightShape, scheme?_marked]
  cases scheme? (significantFront front) with
  | none => rfl
  | some parts =>
    rcases parts with ⟨scheme, rest⟩
    simp only [Option.map_some, checkWeb_marked rest leftRest rightRest,
      checkFile_marked rest leftRest rightRest]
    split
    · rfl
    · split
      · rfl
      · rcases slashes_or_not rest with ⟨authority, rfl⟩ | other
        · exact withoutQuery_withAuthority _ authority leftRest rightRest
        · split
          · next same => exact absurd same (other leftRest _)
          · split
            · next same => exact absurd same (other rightRest _)
            · exact congrArg Except.ok (withoutQuery_withoutAuthority _ rest leftRest rightRest)

end SqlGateway.Url
