import SqlGateway.Node.Id

/-!
# Ids and their segments

An id with a colon reads back as the segments of its tokens, and `child` adds a token to it. So an
id that was composed gives back the segments it was composed of, and no others compose to it:
`compose_roundTrip`.
-/

namespace SqlGateway.Node

/-! ## Tokens -/

namespace Segment

theorem colon_mem_tokenChars (segment : Segment) : ':' ∈ segment.tokenChars := by
  simp [tokenChars]

theorem point_not_mem_word (segment : Segment) : '.' ∉ segment.word.toList := by
  cases segment <;> simp [word]

theorem point_not_mem_tokenChars {segment : Segment} (addressable : segment.Addressable) :
    '.' ∉ segment.tokenChars := by
  simp [tokenChars, point_not_mem_word, addressable.2.1]

theorem ofToken?_of_not_mem {token : List Char} (absent : ':' ∉ token) : ofToken? token = none := by
  rw [ofToken?, Text.cut_of_not_mem absent]

theorem filterMap_ofToken? {path : List Segment}
    (addressable : ∀ segment ∈ path, segment.Addressable) :
    (path.map tokenChars).filterMap ofToken? = path := by
  induction path with
  | nil => rfl
  | cons first rest induction =>
    rw [List.forall_mem_cons] at addressable
    rw [List.map_cons, List.filterMap_cons_some (ofToken?_tokenChars addressable.1.1),
      induction addressable.2]

end Segment

/-! ## Reading an id -/

theorem segments_of_colon {id : String} (colon : ':' ∈ id.toList) :
    segments id = .ok ((Text.pieces '.' id.toList).filterMap Segment.ofToken?) := by
  have named : id ≠ "" := by
    rintro rfl
    simp at colon
  have below : id ≠ rootId := by
    rintro rfl
    simp [rootId] at colon
  simp [segments, named, below, colon]

theorem segments_of_bare {id : String} {path : List Segment} (bare : ':' ∉ id.toList)
    (read : segments id = .ok path) : path = [.table id] := by
  simp only [segments, bare, not_false_eq_true, if_true] at read
  split at read
  · cases read
  · split at read
    · cases read
    · exact (Except.ok.inj read).symm

theorem classify_of_segments {id : String} {path : List Segment} (read : segments id = .ok path) :
    classify id = (path.getLast?.map Segment.kind).getD .unknown := by
  have below : id ≠ rootId := by
    rintro rfl
    cases read
  rw [classify, if_neg below, read]

theorem Path.ofId_of_segments {id : String} {path : List Segment} (read : segments id = .ok path)
    (schema : Option String) :
    ofId id schema = .ok ((path.foldl add empty).complete schema) := by
  rw [ofId, read]

namespace Id

/-! ## Composing and extending -/

theorem child_eq_ok_iff {id next : Id} {segment : Segment} :
    id.child segment = .ok next ↔
      segment.Addressable ∧ next = ⟨id.text ++ String.ofList ('.' :: segment.tokenChars)⟩ := by
  rw [child, ← Segment.check_eq_ok_iff]
  cases segment.check with
  | error failure => simp
  | ok => simp [eq_comm]

theorem compose_eq_ok_iff {path : List Segment} {id : Id} :
    compose path = .ok id ↔
      path ≠ [] ∧ (∀ segment ∈ path, segment.Addressable) ∧
        id = ⟨String.ofList (Text.joinChars '.' (path.map Segment.tokenChars))⟩ := by
  rw [compose]
  split
  · simp_all
  · simp only [← Segment.check_eq_ok_iff, ← Failure.forM_eq_ok_iff]
    cases path.forM Segment.check with
    | error failure => simp
    | ok => simp_all [eq_comm]

theorem forM_concat (path : List Segment) (segment : Segment) :
    (path ++ [segment]).forM Segment.check =
      (path.forM Segment.check >>= fun _ => segment.check) := by
  simp

theorem compose_concat {path : List Segment} (more : path ≠ []) (segment : Segment) :
    compose (path ++ [segment]) = (compose path >>= fun id => id.child segment) := by
  rw [compose, compose, if_neg (by simp), if_neg more, forM_concat]
  cases path.forM Segment.check with
  | error failure => rfl
  | ok =>
    have tokens : path.map Segment.tokenChars ≠ [] := by simpa using more
    simp only [List.map_append, List.map_singleton, Text.joinChars_concat tokens,
      String.ofList_append]
    rfl

theorem compose_append {front : List Segment} (more : front ≠ []) (rest : List Segment) :
    compose (front ++ rest) = (compose front >>= fun id => rest.foldlM child id) := by
  induction rest generalizing front with
  | nil => simp
  | cons next rest induction =>
    rw [List.append_cons, induction (List.append_ne_nil_of_right_ne_nil front (by simp)),
      compose_concat more, bind_assoc]
    rfl

theorem segments_of_compose {path : List Segment} {id : Id} (composed : compose path = .ok id) :
    segments id.text = .ok path := by
  rcases compose_eq_ok_iff.mp composed with ⟨more, addressable, rfl⟩
  have tokens : path.map Segment.tokenChars ≠ [] := by simpa using more
  have pointless : ∀ token ∈ path.map Segment.tokenChars, '.' ∉ token := by
    simp only [List.forall_mem_map]
    exact fun segment member => Segment.point_not_mem_tokenChars (addressable segment member)
  have colon : ':' ∈ Text.joinChars '.' (path.map Segment.tokenChars) := by
    rcases List.exists_mem_of_ne_nil path more with ⟨segment, member⟩
    exact Text.subset_joinChars (List.mem_map_of_mem member) segment.colon_mem_tokenChars
  rw [segments_of_colon (by simpa using colon), String.toList_ofList,
    Text.pieces_joinChars tokens pointless, Segment.filterMap_ofToken? addressable]

theorem segments_child {id next : Id} {segment : Segment} (reached : id.child segment = .ok next) :
    segments next.text =
      .ok ((Text.pieces '.' id.text.toList).filterMap Segment.ofToken? ++ [segment]) := by
  rcases child_eq_ok_iff.mp reached with ⟨addressable, rfl⟩
  have pointless := Segment.point_not_mem_tokenChars addressable
  rw [segments_of_colon (by simp [segment.colon_mem_tokenChars]), String.toList_append,
    String.toList_ofList, Text.pieces_append_cons, Text.pieces_of_not_mem pointless,
    List.filterMap_append]
  simp [Segment.ofToken?_tokenChars addressable.1]

theorem segments_of_child {id next : Id} {path : List Segment} {segment : Segment}
    (colon : ':' ∈ id.text.toList) (read : segments id.text = .ok path)
    (reached : id.child segment = .ok next) : segments next.text = .ok (path ++ [segment]) := by
  rw [segments_of_colon colon, Except.ok.injEq] at read
  rw [segments_child reached, read]

/-- A list of segments composes exactly if there is one and all can stand in an id. The id then
reads back as the list, has the kind of its last segment, is reached from its first segment through
the others, and belongs to no other list. -/
theorem compose_roundTrip (path : List Segment) :
    ((∃ id, compose path = .ok id) ↔ path ≠ [] ∧ ∀ segment ∈ path, segment.Addressable) ∧
      ∀ id, compose path = .ok id →
        segments id.text = .ok path ∧
        (∃ last, path.getLast? = some last ∧ classify id.text = last.kind) ∧
        (∃ first rest, path = first :: rest ∧
          (compose [first] >>= fun top => rest.foldlM child top) = .ok id) ∧
        ∀ other, compose other = .ok id → other = path := by
  constructor
  · constructor
    · rintro ⟨id, composed⟩
      rcases compose_eq_ok_iff.mp composed with ⟨more, addressable, -⟩
      exact ⟨more, addressable⟩
    · rintro ⟨more, addressable⟩
      exact ⟨_, compose_eq_ok_iff.mpr ⟨more, addressable, rfl⟩⟩
  · intro id composed
    have more := (compose_eq_ok_iff.mp composed).1
    have read := segments_of_compose composed
    refine ⟨read, ?kind, ?children, ?unique⟩
    case kind =>
      have last := List.getLast?_eq_some_getLast more
      refine ⟨path.getLast more, last, ?_⟩
      rw [classify_of_segments read, last]
      rfl
    case children =>
      cases path with
      | nil => exact absurd rfl more
      | cons first rest =>
        have built : compose ([first] ++ rest) = _ :=
          compose_append (List.cons_ne_nil first []) rest
        exact ⟨first, rest, rfl, built.symm.trans composed⟩
    case unique =>
      intro other composed
      have same := (segments_of_compose composed).symm.trans read
      rwa [Except.ok.injEq] at same

theorem compose_roundTrip_shop :
    let path : List Segment := [.database "shop", .schema "été 日本", .folder .views, .view "v-1"]
    let id : Id := ⟨"db:shop.schema:été 日本.folder:views.view:v-1"⟩
    compose path = .ok id ∧ segments id.text = .ok path ∧ classify id.text = .view ∧
      ∀ other, compose other = .ok id → other = path := by
  intro path id
  have composed : compose path = .ok id :=
    compose_eq_ok_iff.mpr ⟨by decide, by decide, by decide⟩
  rcases (compose_roundTrip path).2 id composed with ⟨read, ⟨last, found, kind⟩, -, unique⟩
  cases found
  exact ⟨composed, read, kind, unique⟩

end Id

end SqlGateway.Node
