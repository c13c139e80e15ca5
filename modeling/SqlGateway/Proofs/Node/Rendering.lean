import SqlGateway.Proofs.Node.Path

/-!
# Ids written again

A piece of an id text is understood exactly if it is the token of a segment with a name. So the
segments of a text with a colon, written as tokens again, give the text without the pieces that are
not understood, and from then on nothing more is lost: `render_stable`.
-/

namespace SqlGateway.Node

namespace Segment

theorem word_of_ofWord? {word value : String} {segment : Segment}
    (found : ofWord? word value = some segment) : segment.word = word := by
  unfold ofWord? at found
  split at found
  case h_3 =>
    rcases Option.map_eq_some_iff.mp found with ⟨folder, -, rfl⟩
    rfl
  case h_8 => cases found
  all_goals
    cases found
    rfl

theorem ofToken?_eq_some_iff {token : List Char} {segment : Segment} :
    ofToken? token = some segment ↔ segment.value ≠ "" ∧ token = segment.tokenChars := by
  constructor
  · intro read
    refine ⟨value_ne_empty_of_ofToken? read, ?_⟩
    rw [ofToken?] at read
    split at read
    · cases read
    · next word value cut =>
      split at read
      · cases read
      · rw [(Text.cut_eq_some_iff.mp cut).2, tokenChars, word_of_ofWord? read,
          value_of_ofWord? read, String.toList_ofList, String.toList_ofList]
  · rintro ⟨named, rfl⟩
    exact ofToken?_tokenChars (mt String.toList_eq_nil_iff.mp named)

theorem map_tokenChars_filterMap (pieces : List (List Char)) :
    (pieces.filterMap ofToken?).map tokenChars =
      pieces.filter fun piece => (ofToken? piece).isSome := by
  induction pieces with
  | nil => rfl
  | cons piece pieces induction =>
    cases read : ofToken? piece with
    | none => simp [read, induction]
    | some segment =>
      rw [List.filterMap_cons_some read, List.map_cons, induction,
        ← (ofToken?_eq_some_iff.mp read).2, List.filter_cons_of_pos (by simp [read])]

end Segment

def render (path : List Segment) : String :=
  String.ofList (Text.joinChars '.' (path.map Segment.tokenChars))

theorem colon_mem_render {path : List Segment} (more : path ≠ []) :
    ':' ∈ (render path).toList := by
  rcases List.exists_mem_of_ne_nil path more with ⟨segment, member⟩
  rw [render, String.toList_ofList]
  exact Text.subset_joinChars (List.mem_map_of_mem member) segment.colon_mem_tokenChars

section Read

variable {id : String} {path : List Segment} (colon : ':' ∈ id.toList)
  (read : segments id = .ok path)

include colon read

theorem pieces_render (more : path ≠ []) :
    Text.pieces '.' (render path).toList =
      (Text.pieces '.' id.toList).filter fun piece => (Segment.ofToken? piece).isSome := by
  rw [segments_of_colon colon, Except.ok.injEq] at read
  have kept := Segment.map_tokenChars_filterMap (Text.pieces '.' id.toList)
  rw [read] at kept
  rw [render, String.toList_ofList, ← kept, Text.pieces_joinChars (by simpa using more)]
  intro token member
  rw [kept] at member
  exact Text.not_mem_of_mem_pieces (List.mem_filter.mp member).1

theorem segments_render (more : path ≠ []) : segments (render path) = .ok path := by
  rw [segments_of_colon (colon_mem_render more), pieces_render colon read more,
    List.filterMap_filter, ← read, segments_of_colon colon]
  congr 2
  funext piece
  cases Segment.ofToken? piece <;> rfl

theorem addressable_iff_of_segments {segment : Segment} (member : segment ∈ path) :
    segment.Addressable ↔ ':' ∉ segment.value.toList := by
  have named := value_ne_empty_of_segments read segment member
  rw [segments_of_colon colon, Except.ok.injEq] at read
  subst read
  rcases List.mem_filterMap.mp member with ⟨piece, found, understood⟩
  have pointless : '.' ∉ segment.value.toList := by
    intro inside
    apply Text.not_mem_of_mem_pieces found
    rw [(Segment.ofToken?_eq_some_iff.mp understood).2, Segment.tokenChars]
    exact List.mem_append_right _ (List.mem_cons_of_mem _ inside)
  exact ⟨fun addressable => addressable.2.2,
    fun absent => ⟨mt String.toList_eq_nil_iff.mp named, pointless, absent⟩⟩

end Read

/-- The segments that were read from a text with a colon are read from their tokens again, with the
same kind and the same path. They compose, and to this text, exactly if no name among them holds a
colon. -/
theorem render_stable {id : String} {path : List Segment} (colon : ':' ∈ id.toList)
    (read : segments id = .ok path) (more : path ≠ []) :
    segments (render path) = .ok path ∧
      classify (render path) = classify id ∧
      (∀ schema, Path.ofId (render path) schema = Path.ofId id schema) ∧
      ((∃ made, Id.compose path = .ok made) ↔ ∀ segment ∈ path, ':' ∉ segment.value.toList) ∧
      ∀ made, Id.compose path = .ok made → made.text = render path := by
  have again := segments_render colon read more
  refine ⟨again, ?kind, ?path, ?composes, ?same⟩
  case kind => rw [classify_of_segments again, classify_of_segments read]
  case path =>
    intro schema
    rw [Path.ofId_of_segments again, Path.ofId_of_segments read]
  case composes =>
    constructor
    · rintro ⟨made, composed⟩ segment member
      exact ((Id.compose_eq_ok_iff.mp composed).2.1 segment member).2.2
    · intro absent
      refine ⟨⟨render path⟩, Id.compose_eq_ok_iff.mpr ⟨more, fun segment member => ?_, rfl⟩⟩
      exact (addressable_iff_of_segments colon read member).mpr (absent segment member)
  case same =>
    intro made composed
    rw [(Id.compose_eq_ok_iff.mp composed).2.2, render]

/-- A text with unknown words, an empty name, a folder that does not exist and a colon in a name. -/
theorem render_stable_noisy :
    let id := "db:shop..index:7.schema:.folder:triggers.table:a:b.db:new"
    let path : List Segment := [.database "shop", .table "a:b", .database "new"]
    segments id = .ok path ∧ segments "db:shop.table:a:b.db:new" = .ok path ∧
      classify "db:shop.table:a:b.db:new" = classify id ∧
      (∀ schema, Path.ofId "db:shop.table:a:b.db:new" schema = Path.ofId id schema) ∧
      ¬∃ made, Id.compose path = .ok made := by
  intro id path
  have read : segments "db:shop..index:7.schema:.folder:triggers.table:a:b.db:new" = .ok path := rfl
  rcases render_stable (by decide) read (by decide) with ⟨again, kind, addressed, composes, -⟩
  exact ⟨read, again, kind, addressed, composes.not.mpr (by decide)⟩

end SqlGateway.Node
