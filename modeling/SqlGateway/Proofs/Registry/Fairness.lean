import Mathlib.Data.Nat.Init
import SqlGateway.Proofs.Registry.Turns

/-!
# Everybody's turn comes

In a course in which nobody who can act is left out for good, and the server side answers, every
call goes on until it is at its end. Who holds the pools gives them back, as it waits for nobody;
so those who wait for the pools come to hold them one after the other; so those who hold the
definitions give them back too, and those who wait for them come to hold them. Permits are handed
on in the same way, once the call that opens a pool has its answer.

Main statement: `Just.exists_change`.
-/

namespace SqlGateway.Registry

/-! ## Moments -/

theorem exists_first {State : Type} {states : Nat → State} {happens : Nat → Prop}
    (Holds : State → Prop) {start : Nat} (here : Holds (states start))
    (keeps : ∀ moment ≥ start, ¬happens moment → Holds (states moment) →
      Holds (states (moment + 1)))
    (later : ∃ moment ≥ start, happens moment) :
    ∃ moment ≥ start, happens moment ∧ Holds (states moment) := by
  rcases later with ⟨last, after, acts⟩
  induction distance : last - start generalizing start with
  | zero =>
    have same : start = last := by omega
    subst same
    exact ⟨start, Nat.le_refl _, acts, here⟩
  | succ distance induction =>
    by_cases own : happens start
    · exact ⟨start, Nat.le_refl _, own, here⟩
    · have next := keeps start (Nat.le_refl _) own here
      rcases induction next
        (fun moment after => keeps moment (Nat.le_of_succ_le after)) (by omega) (by omega) with
        ⟨moment, above, result⟩
      exact ⟨moment, by omega, result⟩

theorem head_always {α : Type} {lines : Nat → List α} {moves : Nat → α → Prop}
    (queues : ∀ moment, Queues (lines moment) (lines (moment + 1)) (moves moment))
    {start : Nat} {who : α} (head : ∃ rest, lines start = who :: rest)
    (never : ∀ moment ≥ start, ¬moves moment who) :
    ∀ moment ≥ start, ∃ rest, lines moment = who :: rest := by
  intro moment after
  induction moment, after using Nat.le_induction with
  | base => exact head
  | succ moment after here =>
    rcases here with ⟨rest, here⟩
    exact (queues moment).head here (never moment after)

/-- Everybody in a line moves at some time if the first always does: by induction on those who came
before. -/
theorem exists_move_of_line {α : Type} {lines : Nat → List α} {moves : Nat → α → Prop}
    (queues : ∀ moment, Queues (lines moment) (lines (moment + 1)) (moves moment))
    (leaves : ∀ {moment who}, who ∈ lines moment → moves moment who → who ∉ lines (moment + 1))
    (head : ∀ {start who rest}, lines start = who :: rest → ∃ moment ≥ start, moves moment who)
    {start : Nat} {who : α} (member : who ∈ lines start) :
    ∃ moment ≥ start, moves moment who := by
  rcases List.append_of_mem member with ⟨front, rest, place⟩
  induction length : front.length using Nat.strongRecOn generalizing start front rest with
  | ind count induction =>
    cases front with
    | nil => exact head place
    | cons first front =>
      by_contra! never
      -- The first stays the first until it moves, and nobody comes in between.
      rcases exists_first
        (fun line => ∃ between behind, line = first :: (between ++ who :: behind) ∧
          between.Sublist front)
        ⟨front, rest, place, List.Sublist.refl _⟩
        (fun moment after apart here => by
          rcases here with ⟨between, behind, here, few⟩
          rcases queues moment with ⟨stays, more, next, still⟩
          refine ⟨between.filter stays, behind.filter stays ++ more, ?_,
            List.filter_sublist.trans few⟩
          simp [next, here, still first apart, still who (never moment after)])
        (head place) with ⟨moment, after, moved, between, behind, here, few⟩
      rcases queues moment with ⟨stays, more, next, still⟩
      have stay := still who (never moment after)
      have left : stays first = false := by
        rw [Bool.eq_false_iff]
        intro stayed
        apply leaves (by rw [here]; exact List.mem_cons_self) moved
        simp [next, here, stayed]
      have later : lines (moment + 1) =
          between.filter stays ++ who :: (behind.filter stays ++ more) := by
        simp [next, here, stay, left]
      have fewer : (between.filter stays).length < count := by
        have most := (List.filter_sublist (p := stays).trans few).length_le
        rw [List.length_cons] at length
        omega
      rcases induction _ fewer (by simp [later]) _ _ later rfl with ⟨last, further, own⟩
      exact never last (by omega) own

namespace Guarded

/-! ## Courses without end -/

structure Endless where
  states : Nat → Guarded
  turns : Nat → Turn
  steps : ∀ moment, (states moment).step (turns moment) = some (states (moment + 1))

namespace Endless

/-- Nobody who can act is left out for good. -/
def Just (course : Endless) : Prop :=
  ∀ party start, (∀ moment ≥ start, ((course.states moment).act party).isSome) →
    ∃ moment ≥ start, course.turns moment = .act party

/-- The server side answers: what is opened is opened or refused at some time, and what is closed is
closed or fails to. -/
structure Answered (course : Endless) : Prop where
  connects : ∀ {start call definition key cell},
    (course.states start).machine.stage? call = some (.opening definition key cell) →
    ∃ moment ≥ start, ∃ failure, course.turns moment = .openEnds call failure
  closes : ∀ {start call}, (course.states start).phases (.call call) = .closing →
    ∃ moment ≥ start, ∃ succeeds, course.turns moment = .closeEnds call succeeds

variable {course : Endless} {start : Nat} {party : Party} {call : Nat}

theorem reachable (first : Reachable (course.states 0)) (moment : Nat) :
    Reachable (course.states moment) := by
  induction moment with
  | zero => exact first
  | succ moment induction => exact .step _ induction (course.steps moment)

theorem Just.exists_turn (just : course.Just) (Holds : Guarded → Prop)
    (here : Holds (course.states start))
    (keeps : ∀ moment ≥ start, (course.turns moment).party? ≠ some party →
      Holds (course.states moment) → Holds (course.states (moment + 1)))
    (able : ∀ moment ≥ start, Holds (course.states moment) →
      ((course.states moment).act party).isSome) :
    ∃ moment ≥ start, (course.turns moment).party? = some party ∧
      Holds (course.states moment) := by
  apply exists_first Holds here keeps
  by_contra! never
  have always : ∀ moment ≥ start, Holds (course.states moment) :=
    Nat.le_induction here fun moment after => keeps moment after (never moment after)
  rcases just party start (fun moment after => able moment after (always moment after)) with
    ⟨moment, after, turn⟩
  exact never moment after (by rw [turn]; rfl)

theorem acts_of_turn {moment : Nat} (first : Reachable (course.states 0))
    (turn : (course.turns moment).party? = some party)
    (inside : (course.states moment).phases party ≠ .outside)
    (unclosed : (course.states moment).phases party ≠ .closing) :
    Acts (course.states moment) party (course.states (moment + 1)) := by
  have steps := course.steps moment
  cases taken : course.turns moment with
  | act other =>
    rw [taken] at steps turn
    cases turn
    exact acts_of_act steps
  | openEnds other failure =>
    rw [taken] at steps turn
    cases turn
    rcases Option.map_eq_some_iff.mp steps with ⟨machine, ended, -⟩
    rcases Machine.opening_of_openEnds ended with ⟨request, definition, key, cell, present⟩
    exact absurd (((course.reachable first moment).sound.calls present).outside_of_opening rfl)
      inside
  | closeEnds other succeeds =>
    rw [taken] at steps turn
    cases turn
    exact absurd (closeEnds_inv steps).1 unclosed
  | invoke | inquire | reorder =>
    rw [taken] at turn
    cases turn

theorem Just.exists_turn_of_phase (just : course.Just) {phase : Phase}
    (here : (course.states start).phases party = phase)
    (able : ∀ moment ≥ start, (course.states moment).phases party = phase →
      ((course.states moment).act party).isSome) :
    ∃ moment ≥ start, (course.turns moment).party? = some party ∧
      (course.states moment).phases party = phase :=
  just.exists_turn (fun state => state.phases party = phase) here
    (fun moment _ apart is => (phase_of_others (course.steps moment) apart).trans is) able

theorem Just.exists_acts (just : course.Just) (first : Reachable (course.states 0))
    {phase : Phase} (here : (course.states start).phases party = phase)
    (inside : phase ≠ .outside) (unclosed : phase ≠ .closing)
    (able : ∀ moment ≥ start, (course.states moment).phases party = phase →
      ((course.states moment).act party).isSome) :
    ∃ moment ≥ start, (course.states moment).phases party = phase ∧
      Acts (course.states moment) party (course.states (moment + 1)) := by
  rcases just.exists_turn_of_phase here able with ⟨moment, after, turn, is⟩
  exact ⟨moment, after, is,
    acts_of_turn first turn (by rw [is]; exact inside) (by rw [is]; exact unclosed)⟩

/-! ### The pools -/

/-- Who holds a guard gives it back at some time. -/
def Returns (course : Endless) (guard : Guard) : Prop :=
  ∀ {start party}, ((course.states start).phases party).holds guard ≠ none →
    ∃ moment ≥ start, ((course.states moment).phases party).holds guard = none

theorem Just.returns_pools (just : course.Just) (first : Reachable (course.states 0)) :
    course.Returns .pools := by
  -- With its section over, a party gives back the pools.
  have given {start : Nat} {party : Party} {outer : Option Mode} {mode : Mode}
      (here : (course.states start).phases party = .holdsPools outer mode true) :
      ∃ moment ≥ start, ((course.states moment).phases party).holds .pools = none := by
    rcases just.exists_acts first here nofun nofun
      (fun moment _ is => (course.reachable first moment).sound.act_of_holdsPools is) with
      ⟨moment, after, is, acts⟩
    refine ⟨moment + 1, Nat.le_succ_of_le after, ?_⟩
    have next := acts.next
    rw [is] at next
    generalize (course.states (moment + 1)).phases party = reached at next
    cases next <;> rfl
  intro start party holds
  cases phase : (course.states start).phases party with
  | holdsPools outer mode done =>
    cases done with
    | true => exact given phase
    | false =>
      rcases just.exists_acts first phase nofun nofun
        (fun moment _ is => (course.reachable first moment).sound.act_of_holdsPools is) with
        ⟨moment, after, is, acts⟩
      have next := acts.next
      rw [is] at next
      have reached : (course.states (moment + 1)).phases party = .holdsPools outer mode true := by
        generalize (course.states (moment + 1)).phases party = reached at next
        cases next
        rfl
      rcases given reached with ⟨later, further, free⟩
      exact ⟨later, by omega, free⟩
  | _ =>
    rw [phase] at holds
    exact absurd rfl holds

/-! ### Those who wait for a guard -/

theorem holders_of_others {guard : Guard} {mode : Mode} {queue : List (Party × Mode)}
    {before after : Guarded} {turn : Turn} (steps : before.step turn = some after)
    (apart : turn.party? ≠ some party)
    (head : (before.locks guard).queue = (party, mode) :: queue) :
    (after.locks guard).holders.Sublist (before.locks guard).holders := by
  rcases lock_of_step steps guard with same | ⟨other, own, ⟨asked, changed⟩ | taken | changed⟩
  · rw [same]
  · rw [changed, Lock.ask]
  · rcases Lock.take_eq_some taken with ⟨how, rest, place, -, -⟩
    rw [head] at place
    cases place
    exact absurd own apart
  · rw [changed, Lock.release]
    exact List.filter_sublist

theorem Returns.exists_unheld {guard : Guard} (returns : course.Returns guard)
    (first : Reachable (course.states 0)) (count : Nat)
    (fewer : ∀ early ≥ start, ∀ late ≥ early, ((course.states late).locks guard).holders.Sublist
      ((course.states early).locks guard).holders)
    (few : ((course.states start).locks guard).holders.length ≤ count) :
    ∃ last ≥ start, ((course.states last).locks guard).holders = [] := by
  induction count generalizing start with
  | zero => exact ⟨start, Nat.le_refl _, List.length_eq_zero_iff.mp (Nat.le_zero.mp few)⟩
  | succ count induction =>
    cases held : ((course.states start).locks guard).holders with
    | nil => exact ⟨start, Nat.le_refl _, held⟩
    | cons holder others =>
      rcases holder with ⟨holder, how⟩
      have tied (moment : Nat) := (course.reachable first moment).sound.tied guard
      have member : (holder, how) ∈ ((course.states start).locks guard).holders := by
        rw [held]
        exact List.mem_cons_self
      have holds := (tied start).held.mp member
      rcases returns (by rw [holds]; exact nofun) with ⟨late, later, free⟩
      have gone : (holder, how) ∉ ((course.states late).locks guard).holders := by
        intro still
        cases free.symm.trans ((tied late).held.mp still)
      have sublist := fewer start (Nat.le_refl _) late later
      have less : ((course.states late).locks guard).holders.length <
          ((course.states start).locks guard).holders.length := by
        apply Nat.lt_of_le_of_ne sublist.length_le
        intro equal
        rw [sublist.eq_of_length equal] at gone
        exact gone member
      rcases induction (fun early after => fewer early (Nat.le_trans later after)) (by omega) with
        ⟨last, further, none⟩
      exact ⟨last, Nat.le_trans later further, none⟩

theorem Just.exists_turn_of_first (just : course.Just) (first : Reachable (course.states 0))
    {guard : Guard} (returns : course.Returns guard) {mode : Mode}
    {queue : List (Party × Mode)}
    (head : ((course.states start).locks guard).queue = (party, mode) :: queue) :
    ∃ moment ≥ start, (course.turns moment).party? = some party := by
  by_contra! never
  have sound (moment : Nat) := (course.reachable first moment).sound
  have heads := head_always
    (fun moment => queues_of_step (sound moment) (course.steps moment) guard) ⟨queue, head⟩ never
  have fewer : ∀ early ≥ start, ∀ late ≥ early,
      ((course.states late).locks guard).holders.Sublist
        ((course.states early).locks guard).holders := by
    intro early after late later
    induction late, later using Nat.le_induction with
    | base => exact List.Sublist.refl _
    | succ late later induction =>
      have further : late ≥ start := Nat.le_trans after later
      rcases heads late further with ⟨queue, here⟩
      exact (holders_of_others (course.steps late) (never late further) here).trans induction
  rcases returns.exists_unheld first _ fewer (Nat.le_refl _) with ⟨last, after, none⟩
  have able : ∀ moment ≥ last, ((course.states moment).act party).isSome := by
    intro moment later
    rcases heads moment (Nat.le_trans after later) with ⟨queue, here⟩
    have free : ((course.states moment).locks guard).holders = [] := by
      have sublist := fewer last after moment later
      rw [none] at sublist
      exact List.sublist_nil.mp sublist
    exact (sound moment).act_of_first free here
  rcases just party last able with ⟨moment, later, turn⟩
  exact never moment (Nat.le_trans after later) (by rw [turn]; rfl)

theorem Just.exists_turn_of_asks (just : course.Just) (first : Reachable (course.states 0))
    {guard : Guard} (returns : course.Returns guard) {mode : Mode}
    (asks : ((course.states start).phases party).asks guard = some mode) :
    ∃ moment ≥ start, (course.turns moment).party? = some party := by
  have sound (moment : Nat) := (course.reachable first moment).sound
  refine exists_move_of_line
    (fun moment => queues_of_step (sound moment) (course.steps moment) guard) ?_
    (fun {_ who _} head => just.exists_turn_of_first first returns head)
    (((sound start).tied guard).asked.mpr asks)
  -- Who takes a guard waits for it no longer.
  intro moment who waits turn still
  have asked := ((sound moment).tied guard).asked.mp waits
  have acts := acts_of_turn first turn (Phase.ne_outside_of_asks asked)
    (Phase.ne_closing_of_asks asked)
  have served := acts.next.asks_eq_none asked
  cases served.symm.trans (((sound (moment + 1)).tied guard).asked.mp still)

/-! ### The definitions -/

theorem Just.returns_definitions (just : course.Just) (first : Reachable (course.states 0)) :
    course.Returns .definitions := by
  intro start party holds
  induction rank : ((course.states start).phases party).toReturn
      ((course.states start).isReserving party) using Nat.strongRecOn generalizing start with
  | ind rank induction =>
    have sound (moment : Nat) := (course.reachable first moment).sound
    have inside {phase : Phase} (holds : phase.holds .definitions ≠ none) : phase ≠ .outside := by
      rintro rfl
      exact holds rfl
    have unclosed : (course.states start).phases party ≠ .closing := by
      intro is
      rw [is] at holds
      exact holds rfl
    have turn : ∃ moment ≥ start, (course.turns moment).party? = some party := by
      cases phase : (course.states start).phases party with
      | holdsDefinitions mode done =>
        rcases just.exists_turn_of_phase phase
          (fun moment _ is => (sound moment).act_of_holdsDefinitions is) with
          ⟨moment, after, turn, -⟩
        exact ⟨moment, after, turn⟩
      | asksPools outer mode =>
        have asks : ((course.states start).phases party).asks .pools = some mode := by
          rw [phase]
          rfl
        exact just.exists_turn_of_asks first (just.returns_pools first) asks
      | holdsPools outer mode done =>
        rcases just.exists_turn_of_phase phase
          (fun moment _ is => (sound moment).act_of_holdsPools is) with ⟨moment, after, turn, -⟩
        exact ⟨moment, after, turn⟩
      | _ =>
        rw [phase] at holds
        exact absurd rfl holds
    rcases exists_first
      (fun state : Guarded => state.phases party = (course.states start).phases party ∧
        state.isReserving party = (course.states start).isReserving party) ⟨rfl, rfl⟩
      (fun moment _ apart here => by
        have still := phase_of_others (course.steps moment) apart
        have same := isReserving_of_others (sound moment) (course.steps moment) apart
          (by rw [here.1]; exact inside holds)
        exact ⟨still.trans here.1, same.trans here.2⟩)
      turn with ⟨moment, after, own, same, reserving⟩
    have acts := acts_of_turn first own (by rw [same]; exact inside holds)
      (by rw [same]; exact unclosed)
    rcases acts.toReturn_lt (by rw [same]; exact holds) with free | less
    · exact ⟨moment + 1, by omega, free⟩
    · by_cases free : ((course.states (moment + 1)).phases party).holds .definitions = none
      · exact ⟨moment + 1, by omega, free⟩
      · rw [same, reserving, rank] at less
        rcases induction _ less free rfl with ⟨later, further, given⟩
        exact ⟨later, by omega, given⟩

/-! ### Permits -/

theorem Answered.exists_free (answered : course.Answered) (first : Reachable (course.states 0))
    (start cell : Nat) :
    ∃ moment ≥ start, ((course.states moment).machine.registry.content cell).isSome ∨
      (course.states moment).machine.registry.isBusy cell = false := by
  have sound (moment : Nat) := (course.reachable first moment).sound
  by_cases busy : (course.states start).machine.registry.isBusy cell = true
  · rcases (sound start).reachable.attended busy with ⟨opener, asked, definition, key, opens⟩
    rcases answered.connects (Machine.stage?_eq_some_iff.mpr ⟨asked, opens⟩) with
      ⟨last, later, answer, ends⟩
    rcases exists_first
      (fun state : Guarded =>
        state.machine.calls[opener]? = some ⟨asked, .opening definition key cell⟩)
      opens (fun moment _ apart present => call_of_others (course.steps moment) apart present)
      ⟨last, later, by rw [ends]; rfl⟩ with ⟨moment, after, own, still⟩
    refine ⟨moment + 1, Nat.le_succ_of_le after, ?_⟩
    rcases turn_of_opening (sound moment) (course.steps moment) still own with ⟨failure, turn⟩
    have steps := course.steps moment
    rw [turn] at steps
    rcases Option.map_eq_some_iff.mp steps with ⟨machine, ended, reached⟩
    have inside := ((sound moment).reachable.kept.fits still).1.inside
    have moves := Machine.moves_of_openEnds ended
    rw [← reached]
    cases moves with
    | intro present _ move =>
      rw [still] at present
      cases present
      cases move with
      | opens => exact .inl (by simp [Machine.moved, content_fill_self _ _ inside])
      | fails => exact .inr (isBusy_setBusy_false ..)
  · exact ⟨start, Nat.le_refl _, .inr (by simpa using busy)⟩

theorem Just.exists_turn_of_line (just : course.Just) (answered : course.Answered)
    (first : Reachable (course.states 0)) {cell : Nat} {who : Nat × Nat} {rest : List (Nat × Nat)}
    (head : (course.states start).line cell = who :: rest) :
    ∃ moment ≥ start, (course.turns moment).party? = some (.call who.1) := by
  by_contra! never
  have sound (moment : Nat) := (course.reachable first moment).sound
  have heads := head_always (fun moment => lines_of_step (course.steps moment) cell) ⟨rest, head⟩
    never
  have same : who.2 = cell := (mem_line.mp (by rw [head]; exact List.mem_cons_self)).2
  rcases who with ⟨call, place⟩
  subst same
  have admits {moment : Nat} (after : moment ≥ start)
      (free : ((course.states moment).machine.registry.content place).isSome ∨
        (course.states moment).machine.registry.isBusy place = false) :
      ((course.states moment).act (.call call)).isSome := by
    rcases heads moment after with ⟨rest, here⟩
    have waits := (mem_line.mp (by rw [here]; exact List.mem_cons_self)).1
    exact (sound moment).act_of_waiter waits (free.imp_right fun idle => ⟨find?_of_line here, idle⟩)
  -- A call that could go on from some moment on would do so.
  have not_free {last : Nat} (after : last ≥ start)
      (free : ∀ moment ≥ last, ((course.states moment).machine.registry.content place).isSome ∨
        (course.states moment).machine.registry.isBusy place = false) : False := by
    rcases just (.call call) last
      (fun moment later => admits (Nat.le_trans after later) (free moment later)) with
      ⟨moment, later, turn⟩
    exact never moment (Nat.le_trans after later) (by rw [turn]; rfl)
  have empty : ∀ moment ≥ start,
      (course.states moment).machine.registry.content place = none := by
    intro moment after
    by_contra filled
    rcases Option.ne_none_iff_exists'.mp filled with ⟨pool, filled⟩
    apply not_free after
    intro later further
    left
    rw [Option.isSome_iff_exists]
    induction later, further using Nat.le_induction with
    | base => exact ⟨pool, filled⟩
    | succ later _ here =>
      rcases here with ⟨pool, here⟩
      exact ⟨pool, ((sound later).evolves (course.steps later)).content here⟩
  rcases answered.exists_free first start place with ⟨last, after, filled | idle⟩
  · rw [empty last after] at filled
    cases filled
  · apply not_free after
    intro moment later
    right
    induction moment, later using Nat.le_induction with
    | base => exact idle
    | succ moment later here =>
      -- Only the first who waits could take the permit.
      rw [Bool.eq_false_iff]
      intro busy
      have further := Nat.le_trans after later
      rcases first_of_busy (sound moment) (course.steps moment) here (empty moment further) busy
        with ⟨taker, turn, ahead⟩
      rcases heads moment further with ⟨rest, there⟩
      cases (find?_of_line there).symm.trans ahead
      exact never moment further turn

theorem Just.exists_turn_of_permit (just : course.Just) (answered : course.Answered)
    (first : Reachable (course.states 0))
    (asks : (course.states start).phases (.call call) = .asksPermit) :
    ∃ moment ≥ start, (course.turns moment).party? = some (.call call) := by
  have sound (moment : Nat) := (course.reachable first moment).sound
  rcases (sound start).exists_waiter asks with ⟨cell, waits⟩
  refine exists_move_of_line (fun moment => lines_of_step (course.steps moment) cell) ?_
    (fun {_ who _} head => just.exists_turn_of_line answered first head)
    (mem_line.mpr ⟨waits, rfl⟩)
  -- Who goes on waits no longer.
  intro moment who waits turn still
  have asked := ((sound moment).waiters.mp (mem_line.mp waits).1).1
  have asking := ((sound (moment + 1)).waiters.mp (mem_line.mp still).1).1
  have next := (acts_of_turn first turn (by rw [asked]; nofun) (by rw [asked]; nofun)).next
  rw [asked, asking] at next
  cases next

/-! ### Everybody -/

theorem Just.exists_turn_of_running (just : course.Just) (answered : course.Answered)
    (first : Reachable (course.states 0))
    (running : (course.states start).isRunning (.call call) = true) :
    ∃ moment ≥ start, (course.turns moment).party? = some (.call call) := by
  have sound (moment : Nat) := (course.reachable first moment).sound
  have asks {guard : Guard} {mode : Mode} (returns : course.Returns guard)
      (waits : ((course.states start).phases (.call call)).asks guard = some mode) :=
    just.exists_turn_of_asks first returns waits
  have able {phase : Phase} (here : (course.states start).phases (.call call) = phase)
      (acts : ∀ moment ≥ start, (course.states moment).phases (.call call) = phase →
        ((course.states moment).act (.call call)).isSome) :
      ∃ moment ≥ start, (course.turns moment).party? = some (.call call) := by
    rcases just.exists_turn_of_phase here acts with ⟨moment, after, turn, -⟩
    exact ⟨moment, after, turn⟩
  cases phase : (course.states start).phases (.call call) with
  | outside =>
    have going : (course.states start).machine.isRunning call = true := by
      simpa [isRunning, phase] using running
    rw [Machine.isRunning, Option.any_eq_true] at going
    rcases going with ⟨stage, found, unfinished⟩
    rcases Machine.stage?_eq_some_iff.mp found with ⟨request, present⟩
    cases opens : stage.isOpening with
    | true =>
      cases stage with
      | opening definition key cell =>
        rcases answered.connects found with ⟨moment, after, failure, turn⟩
        exact ⟨moment, after, by rw [turn]; rfl⟩
      | _ => cases opens
    | false =>
      rcases just.exists_turn
        (fun state => state.phases (.call call) = .outside ∧
          state.machine.calls[call]? = some ⟨request, stage⟩) ⟨phase, present⟩
        (fun moment _ apart here =>
          ⟨(phase_of_others (course.steps moment) apart).trans here.1,
            call_of_others (course.steps moment) apart here.2⟩)
        (fun moment _ here => by
          have there := Machine.stage?_eq_some_iff.mpr ⟨request, here.2⟩
          apply act_of_outside here.1
          · simpa [isRunning, here.1, Machine.isRunning, there] using unfinished
          · rintro _ ⟨⟩
            simp [awaitsServer, here.1, there, opens]) with ⟨moment, after, turn, -⟩
      exact ⟨moment, after, turn⟩
  | asksDefinitions mode => exact asks (just.returns_definitions first) (by rw [phase]; rfl)
  | holdsDefinitions mode done =>
    exact able phase fun moment _ is => (sound moment).act_of_holdsDefinitions is
  | asksPools outer mode => exact asks (just.returns_pools first) (by rw [phase]; rfl)
  | holdsPools outer mode done =>
    exact able phase fun moment _ is => (sound moment).act_of_holdsPools is
  | asksPermit => exact just.exists_turn_of_permit answered first phase
  | closing =>
    rcases answered.closes phase with ⟨moment, after, succeeds, turn⟩
    exact ⟨moment, after, by rw [turn]; rfl⟩

/-- Every call goes on to its next stage until it is at its end. -/
theorem Just.exists_change (just : course.Just) (answered : course.Answered)
    (first : Reachable (course.states 0)) (start call : Nat) :
    ∃ moment ≥ start,
      (course.states (moment + 1)).machine.stage? call ≠
        (course.states moment).machine.stage? call ∨
      (course.states moment).isRunning (.call call) = false := by
  induction distance : ((course.states start).phases (.call call)).toMove using Nat.strongRecOn
    generalizing start with
  | ind distance induction =>
    cases running : (course.states start).isRunning (.call call) with
    | false => exact ⟨start, Nat.le_refl _, .inr running⟩
    | true =>
      rcases exists_first
        (fun state : Guarded =>
          state.phases (.call call) = (course.states start).phases (.call call)) rfl
        (fun moment _ apart is => (phase_of_others (course.steps moment) apart).trans is)
        (just.exists_turn_of_running answered first running) with ⟨moment, after, own, same⟩
      rcases stage?_ne_or_toMove_lt (course.steps moment) own with changed | nearer
      · exact ⟨moment, after, .inl changed⟩
      · rw [same, distance] at nearer
        rcases induction _ nearer (moment + 1) rfl with ⟨last, later, result⟩
        exact ⟨last, by omega, result⟩

end Endless

end Guarded

end SqlGateway.Registry
