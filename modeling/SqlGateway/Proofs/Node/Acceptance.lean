import SqlGateway.Proofs.Node.Rendering

/-!
# Which texts are ids

A text is accepted as an id if it can be read, and it can be read without coming to a single
segment. `ofText_accepts` says which texts these are, and that every other id that exists is of a
known kind below the top.
-/

namespace SqlGateway.Node

def Addresses (text : String) : Prop := ∃ path, segments text = .ok path ∧ path ≠ []

/-- The text has a colon, and no piece of it is the token of a segment with a name. -/
structure Hollow (text : String) : Prop where
  colon : ':' ∈ text.toList
  noToken : ∀ piece ∈ Text.pieces '.' text.toList,
    ∀ segment : Segment, segment.value ≠ "" → piece ≠ segment.tokenChars

theorem segments_eq_nil_iff {text : String} : segments text = .ok [] ↔ Hollow text := by
  constructor
  · intro read
    have colon : ':' ∈ text.toList := by
      apply Decidable.byContradiction
      intro bare
      exact absurd (segments_of_bare bare read) nofun
    refine ⟨colon, ?_⟩
    rw [segments_of_colon colon, Except.ok.injEq, List.filterMap_eq_nil_iff] at read
    intro piece member segment named same
    have understood := Segment.ofToken?_eq_some_iff.mpr ⟨named, same⟩
    rw [read piece member] at understood
    cases understood
  · intro hollow
    rw [segments_of_colon hollow.colon, Except.ok.injEq, List.filterMap_eq_nil_iff]
    intro piece member
    cases understood : Segment.ofToken? piece with
    | none => rfl
    | some segment =>
      rcases Segment.ofToken?_eq_some_iff.mp understood with ⟨named, same⟩
      exact absurd same (hollow.noToken piece member segment named)

theorem not_addresses_of_hollow {text : String} (hollow : Hollow text) : ¬Addresses text := by
  rintro ⟨path, read, more⟩
  rw [segments_eq_nil_iff.mpr hollow, Except.ok.injEq] at read
  exact more read.symm

theorem exists_segments_iff_addresses {text : String} :
    (∃ path, segments text = .ok path) ↔ Addresses text ∨ Hollow text := by
  constructor
  · rintro ⟨path, read⟩
    cases path with
    | nil => exact .inr (segments_eq_nil_iff.mp read)
    | cons first rest => exact .inl ⟨_, read, List.cons_ne_nil first rest⟩
  · rintro (⟨path, read, -⟩ | hollow)
    · exact ⟨path, read⟩
    · exact ⟨[], segments_eq_nil_iff.mpr hollow⟩

/-! ## Kinds -/

theorem Segment.kind_ne (segment : Segment) : segment.kind ≠ .root ∧ segment.kind ≠ .unknown := by
  cases segment <;> exact ⟨nofun, nofun⟩

theorem classify_of_read {text : String} {path : List Segment} (read : segments text = .ok path) :
    classify text ≠ .root ∧ (classify text = .unknown ↔ Hollow text) := by
  rw [classify_of_segments read, ← segments_eq_nil_iff, read, Except.ok.injEq]
  cases ends : path.getLast? with
  | none =>
    rw [List.getLast?_eq_none_iff] at ends
    subst ends
    exact ⟨nofun, iff_of_true rfl rfl⟩
  | some last =>
    have more : path ≠ [] := by
      rintro rfl
      cases ends
    exact ⟨last.kind_ne.1, iff_of_false last.kind_ne.2 more⟩

theorem addresses_iff_classify {text : String} :
    Addresses text ↔ classify text ≠ .root ∧ classify text ≠ .unknown := by
  constructor
  · rintro ⟨path, read, more⟩
    refine ⟨(classify_of_read read).1, fun unknown => ?_⟩
    exact not_addresses_of_hollow ((classify_of_read read).2.mp unknown) ⟨path, read, more⟩
  · rintro ⟨below, known⟩
    have top : text ≠ rootId := by
      rintro rfl
      exact below rfl
    cases read : segments text with
    | error failure =>
      rw [classify, if_neg top, read] at known
      exact absurd rfl known
    | ok path =>
      refine ⟨path, read, ?_⟩
      rintro rfl
      exact known ((classify_of_read read).2.mpr (segments_eq_nil_iff.mp read))

/-! ## Ids that exist -/

namespace Id

/-- The ways in which an id comes about. -/
inductive Made : Id → Prop where
  | ofText {text : String} {id : Id} (accepted : ofText text = .ok id) : Made id
  | compose {path : List Segment} {id : Id} (composed : compose path = .ok id) : Made id
  | child {id next : Id} {segment : Segment} (made : Made id)
      (reached : id.child segment = .ok next) : Made next

theorem ofText_eq_ok_iff {text : String} {id : Id} :
    ofText text = .ok id ↔ id = ⟨text⟩ ∧ ∃ path, segments text = .ok path := by
  rw [ofText]
  cases segments text with
  | error failure => simp
  | ok path => simp [eq_comm]

theorem kind_of_child {id next : Id} {segment : Segment}
    (reached : id.child segment = .ok next) : next.kind = segment.kind := by
  rw [kind, classify_of_segments (segments_child reached), List.getLast?_concat]
  rfl

theorem Made.exists_segments {id : Id} (made : Made id) : ∃ path, segments id.text = .ok path := by
  cases made with
  | ofText accepted =>
    rcases ofText_eq_ok_iff.mp accepted with ⟨rfl, read⟩
    exact read
  | compose composed => exact ⟨_, segments_of_compose composed⟩
  | child _ reached => exact ⟨_, segments_child reached⟩

/-- A text is accepted exactly if it comes to a segment, which its kind tells, or is hollow. No id
has the kind of the top. A hollow id is of no known kind, and it only comes about by accepting its
text: composed ids and children are of the kind of their last segment. -/
theorem ofText_accepts (text : String) :
    ((∃ id, ofText text = .ok id) ↔ Addresses text ∨ Hollow text) ∧
      (Addresses text ↔ classify text ≠ .root ∧ classify text ≠ .unknown) ∧
      (Hollow text → ¬Addresses text) ∧
      (∀ id, Made id → id.kind ≠ .root ∧ (id.kind = .unknown ↔ Hollow id.text)) ∧
      (∀ path id, compose path = .ok id → id.kind ≠ .unknown) ∧
      ∀ (id next : Id) (segment : Segment), id.child segment = .ok next →
        next.kind = segment.kind := by
  refine ⟨?accepted, addresses_iff_classify, not_addresses_of_hollow, ?made, ?composed, ?child⟩
  case accepted =>
    rw [← exists_segments_iff_addresses]
    simp [ofText_eq_ok_iff]
  case made =>
    intro id made
    rcases made.exists_segments with ⟨path, read⟩
    exact classify_of_read read
  case composed =>
    intro path id composed
    have more := (compose_eq_ok_iff.mp composed).1
    exact (addresses_iff_classify.mp ⟨path, segments_of_compose composed, more⟩).2
  case child => exact fun id next segment reached => kind_of_child reached

/-- An unknown word, an empty name and a folder that does not exist make an id. -/
theorem ofText_accepts_hollow :
    let id : Id := ⟨"index:7.db:.folder:triggers"⟩
    Hollow id.text ∧ (∃ made, ofText id.text = .ok made) ∧ Made id ∧ id.kind = .unknown ∧
      ∃ next, id.child (.table "orders") = .ok next ∧ next.kind = .table := by
  intro id
  have read : segments "index:7.db:.folder:triggers" = .ok [] := rfl
  have hollow : Hollow id.text := segments_eq_nil_iff.mp read
  have made : Made id := .ofText (ofText_eq_ok_iff.mpr ⟨rfl, [], read⟩)
  rcases ofText_accepts id.text with ⟨accepted, -, -, kinds, -, children⟩
  exact ⟨hollow, accepted.mpr (.inr hollow), made, (kinds id made).2.mpr hollow, _, rfl,
    children id _ (.table "orders") rfl⟩

/-- Being accepted and leading somewhere are not the same, and a text makes an id of no known
kind. -/
theorem not_ofText_iff_addresses :
    (¬∀ text, (∃ id, ofText text = .ok id) ↔ Addresses text) ∧
      ¬∀ id, Made id → id.kind ≠ .unknown := by
  have read : segments "foo:bar" = .ok [] := rfl
  have accepted : ofText "foo:bar" = .ok ⟨"foo:bar"⟩ := rfl
  constructor
  · intro claimed
    exact not_addresses_of_hollow (segments_eq_nil_iff.mp read)
      ((claimed "foo:bar").mp ⟨_, accepted⟩)
  · intro claimed
    exact claimed ⟨"foo:bar"⟩ (.ofText accepted) rfl

end Id

end SqlGateway.Node
