import GridClient.Wire.Response

/-!
The discipline of server cursors, for a list of requests with their answers: a cursor that was
opened is used and closed under its own identity, it is closed once, and no other is opened before.
The rules follow from a path of single steps between the cursors that are open.
-/
namespace GridClient

/-- A request, and its answer if a whole one came. -/
structure Trip where
  request : Request
  answer : Option Bytes
  deriving DecidableEq, Repr

namespace Trip

/-- The cursor that the request opened, if it is a query and its answer could be decoded. -/
def opened? (t : Trip) : Option QueryId :=
  match t.request, t.answer with
  | .execute _ _ _ _, some answer => (Decoder.executeResult.decode answer).toOption.map (·.id)
  | _, _ => none

/-- The cursor that the request is about. -/
def target? (t : Trip) : Option QueryId :=
  match t.request with
  | .fetch id _ | .close id => some id
  | _ => none

def isClose (t : Trip) : Bool := t.request.command == .close

/-- Whether the request is about no cursor yet. -/
def isQuery (t : Trip) : Bool := t.target?.isNone

end Trip

/-- The cursor that was opened last. -/
def lastOpened? (trips : List Trip) : Option QueryId :=
  trips.foldl (fun last t => t.opened?.or last) none

/-- The cursors that are open after a request, given those that were open before it. A cursor
counts as closed when the request to close it has been sent, whatever the answer. -/
def openAfter (cursors : List QueryId) (t : Trip) : List QueryId :=
  match t.opened?, t.request with
  | some id, _ => id :: cursors
  | none, .close id => cursors.erase id
  | none, _ => cursors

/-- The cursors that are open after some requests. -/
def openCursors (trips : List Trip) : List QueryId := trips.foldl openAfter []

/-- The rules that hold of the requests of one statement at any time. -/
structure Disciplined (trips : List Trip) : Prop where
  /-- What is fetched from or closed is the cursor that was opened last. -/
  target_eq : ∀ {before trip after id}, trips = before ++ trip :: after →
    trip.target? = some id → lastOpened? before = some id
  /-- A cursor that was closed is left alone: only another one can be fetched from or closed. -/
  closed_untouched : ∀ {before closing between trip after},
    trips = before ++ closing :: (between ++ trip :: after) → closing.isClose →
    trip.target?.isSome → ∃ opening ∈ between, opening.opened?.isSome
  /-- A query is sent only while no cursor is open. -/
  query_alone : ∀ {before trip after}, trips = before ++ trip :: after → trip.isQuery →
    openCursors before = []
  atMostOne : ∀ {before after}, trips = before ++ after → (openCursors before).length ≤ 1

/-- The requests up to the next that opens a cursor. -/
def untilOpened (trips : List Trip) : List Trip := trips.takeWhile fun t => t.opened?.isNone

/-- Every cursor that was opened is closed once before another is opened. -/
def ClosedOnce (trips : List Trip) : Prop :=
  ∀ {before opening after}, trips = before ++ opening :: after → opening.opened?.isSome →
    (untilOpened after).countP Trip.isClose = 1

/-! ### Steps -/

/-- What a request does to the cursor that is open. -/
inductive CursorStep : Option QueryId → Trip → Option QueryId → Prop where
  | opened {trip : Trip} {id : QueryId} (h : trip.opened? = some id) :
    CursorStep none trip (some id)
  | query {trip : Trip} (isQuery : trip.isQuery) (h : trip.opened? = none) :
    CursorStep none trip none
  | fetch (id : QueryId) (pageSize : Int32) (answer : Option Bytes) :
    CursorStep (some id) ⟨.fetch id pageSize, answer⟩ (some id)
  | close (id : QueryId) (answer : Option Bytes) : CursorStep (some id) ⟨.close id, answer⟩ none

/-- Requests one after another. -/
inductive CursorPath : Option QueryId → List Trip → Option QueryId → Prop where
  | nil (cursor : Option QueryId) : CursorPath cursor [] cursor
  | cons {cursor cursor₁ cursor₂ : Option QueryId} {trip : Trip} {trips : List Trip}
    (step : CursorStep cursor trip cursor₁) (path : CursorPath cursor₁ trips cursor₂) :
    CursorPath cursor (trip :: trips) cursor₂

variable {cursor cursor₁ cursor₂ : Option QueryId} {trip : Trip} {trips trips' : List Trip}
  {id : QueryId}

theorem CursorPath.single (h : CursorStep cursor trip cursor₁) :
    CursorPath cursor [trip] cursor₁ :=
  .cons h (.nil _)

theorem CursorPath.append (h : CursorPath cursor trips cursor₁)
    (h' : CursorPath cursor₁ trips' cursor₂) : CursorPath cursor (trips ++ trips') cursor₂ := by
  induction h with
  | nil => exact h'
  | cons step _ ih => exact .cons step (ih h')

theorem CursorPath.split (h : CursorPath cursor (trips ++ trips') cursor₂) :
    ∃ cursor₁, CursorPath cursor trips cursor₁ ∧ CursorPath cursor₁ trips' cursor₂ := by
  induction trips generalizing cursor with
  | nil => exact ⟨cursor, .nil _, h⟩
  | cons trip trips ih =>
    cases h with
    | cons step path =>
      obtain ⟨cursor₁, hfirst, hsecond⟩ := ih path
      exact ⟨cursor₁, .cons step hfirst, hsecond⟩

/-- The step that a request in the middle takes. -/
theorem CursorPath.step_of_mem (h : CursorPath cursor (trips ++ trip :: trips') cursor₂) :
    ∃ before after, CursorPath cursor trips before ∧ CursorStep before trip after ∧
      CursorPath after trips' cursor₂ := by
  obtain ⟨before, hbefore, hrest⟩ := h.split
  cases hrest with
  | cons step path => exact ⟨before, _, hbefore, step, path⟩

theorem Trip.isQuery_of_opened? (h : trip.opened? = some id) : trip.isQuery := by
  obtain ⟨request, answer⟩ := trip
  cases request with
  | execute => rfl
  | _ => cases h

theorem Trip.not_isClose_of_isQuery (h : trip.isQuery) : trip.isClose = false := by
  obtain ⟨request, answer⟩ := trip
  cases request with
  | close => cases h
  | _ => rfl

theorem Trip.target?_of_isQuery (h : trip.isQuery) : trip.target? = none :=
  Option.isNone_iff_eq_none.mp h

/-- A query opens a cursor or does not. -/
theorem CursorStep.ofQuery (h : trip.isQuery) : CursorStep none trip trip.opened? := by
  cases ho : trip.opened? with
  | none => exact .query h ho
  | some id => exact .opened ho

theorem CursorStep.of_isQuery (h : CursorStep cursor trip cursor₁) (hq : trip.isQuery) :
    cursor = none := by
  cases h with
  | opened => rfl
  | query => rfl
  | fetch => cases hq
  | close => cases hq

theorem CursorStep.of_target? (h : CursorStep cursor trip cursor₁) (ht : trip.target? = some id) :
    cursor = some id := by
  cases h with
  | opened h =>
    rw [Trip.target?_of_isQuery (Trip.isQuery_of_opened? h)] at ht
    cases ht
  | query isQuery =>
    rw [Trip.target?_of_isQuery isQuery] at ht
    cases ht
  | fetch => exact ht
  | close => exact ht

theorem CursorStep.of_isClose (h : CursorStep cursor trip cursor₁) (hc : trip.isClose) :
    cursor₁ = none := by
  cases h with
  | opened h =>
    rw [Trip.not_isClose_of_isQuery (Trip.isQuery_of_opened? h)] at hc
    cases hc
  | query => rfl
  | fetch => cases hc
  | close => rfl

/-! ### Rules -/

theorem CursorStep.openAfter_eq (h : CursorStep cursor trip cursor₁) :
    openAfter cursor.toList trip = cursor₁.toList := by
  cases h with
  | opened h =>
    rw [openAfter, h]
    rfl
  | query isQuery h =>
    obtain ⟨request, answer⟩ := trip
    rw [openAfter, h]
    cases request with
    | close => cases isQuery
    | _ => rfl
  | fetch => rfl
  | close id =>
    show [id].erase id = []
    simp

theorem CursorPath.foldl_openAfter (h : CursorPath cursor trips cursor₁) :
    trips.foldl openAfter cursor.toList = cursor₁.toList := by
  induction h with
  | nil => rfl
  | cons step _ ih => rw [List.foldl_cons, step.openAfter_eq, ih]

theorem CursorPath.openCursors_eq (h : CursorPath none trips cursor) :
    openCursors trips = cursor.toList :=
  h.foldl_openAfter

theorem CursorStep.or_eq {last : Option QueryId} (h : CursorStep cursor trip (some id))
    (hlast : ∀ id, cursor = some id → last = some id) : trip.opened?.or last = some id := by
  cases h with
  | opened h =>
    rw [h]
    rfl
  | fetch => exact hlast id rfl

theorem CursorPath.foldl_opened? {last : Option QueryId} (h : CursorPath cursor trips cursor₁)
    (hlast : ∀ id, cursor = some id → last = some id) (hsome : cursor₁ = some id) :
    trips.foldl (fun last t => t.opened?.or last) last = some id := by
  induction h generalizing last with
  | nil => exact hlast id hsome
  | cons step _ ih =>
    apply ih _ hsome
    rintro id rfl
    exact step.or_eq hlast

/-- While a cursor is open, it is the one that was opened last. -/
theorem CursorPath.lastOpened?_eq (h : CursorPath none trips (some id)) :
    lastOpened? trips = some id :=
  h.foldl_opened? (fun _ h => by cases h) rfl

/-- From no cursor to one, some query has opened one. -/
theorem CursorPath.exists_opened (h : CursorPath none trips (some id)) :
    ∃ opening ∈ trips, opening.opened?.isSome := by
  generalize hc : (none : Option QueryId) = cursor at h
  generalize hc' : some id = cursor' at h
  induction h with
  | nil =>
    subst hc
    cases hc'
  | cons step path ih =>
    subst hc
    cases step with
    | opened h => exact ⟨_, List.mem_cons_self, by rw [h]; rfl⟩
    | query =>
      obtain ⟨opening, hmem, hopened⟩ := ih rfl hc'
      exact ⟨opening, List.mem_cons_of_mem _ hmem, hopened⟩

theorem CursorPath.disciplined (h : CursorPath none trips cursor) : Disciplined trips where
  target_eq := by
    rintro before trip after id rfl ht
    obtain ⟨open₁, _, hbefore, hstep, _⟩ := h.step_of_mem
    cases hstep.of_target? ht
    exact hbefore.lastOpened?_eq
  closed_untouched := by
    rintro before closing between trip after rfl hc ht
    obtain ⟨_, open₁, _, hclose, hrest⟩ := h.step_of_mem
    obtain ⟨open₂, _, hbetween, hstep, _⟩ := hrest.step_of_mem
    obtain ⟨id, hid⟩ := Option.isSome_iff_exists.mp ht
    cases hclose.of_isClose hc
    cases hstep.of_target? hid
    exact hbetween.exists_opened
  query_alone := by
    rintro before trip after rfl hq
    obtain ⟨open₁, _, hbefore, hstep, _⟩ := h.step_of_mem
    cases hstep.of_isQuery hq
    exact hbefore.openCursors_eq
  atMostOne := by
    rintro before after rfl
    obtain ⟨open₁, hbefore, _⟩ := h.split
    rw [hbefore.openCursors_eq]
    cases open₁ with
    | none => exact Nat.zero_le _
    | some id => exact Nat.le_refl _

theorem untilOpened_of_opened (h : trip.opened? = some id) : untilOpened (trip :: trips) = [] := by
  rw [untilOpened, List.takeWhile_cons_of_neg (by simp [h])]

theorem untilOpened_cons (h : trip.opened? = none) :
    untilOpened (trip :: trips) = trip :: untilOpened trips := by
  rw [untilOpened, List.takeWhile_cons_of_pos (by rw [h]; rfl), untilOpened]

/-- Without an open cursor nothing is closed before the next is opened. -/
theorem CursorPath.countP_of_none (h : CursorPath none trips cursor) :
    (untilOpened trips).countP Trip.isClose = 0 := by
  induction trips with
  | nil => rfl
  | cons trip trips ih =>
    cases h with
    | cons step path =>
      cases step with
      | opened h => rw [untilOpened_of_opened h, List.countP_nil]
      | query isQuery h =>
        have hnot := Trip.not_isClose_of_isQuery isQuery
        rw [untilOpened_cons h, List.countP_cons_of_neg (by simp [hnot]), ih path]

/-- An open cursor that is not open any more has been closed, and that before the next is opened. -/
theorem CursorPath.countP_of_some (h : CursorPath (some id) trips none) :
    (untilOpened trips).countP Trip.isClose = 1 := by
  induction trips with
  | nil => cases h
  | cons trip trips ih =>
    cases h with
    | cons step path =>
      cases step with
      | fetch => rw [untilOpened_cons rfl, List.countP_cons_of_neg Bool.false_ne_true, ih path]
      | close => rw [untilOpened_cons rfl, List.countP_cons_of_pos rfl, path.countP_of_none]

theorem CursorStep.of_opened? (h : CursorStep cursor trip cursor₁) (ho : trip.opened? = some id) :
    cursor₁ = some id := by
  cases h with
  | opened h => exact h.symm.trans ho
  | query isQuery h => cases h.symm.trans ho
  | fetch => cases ho
  | close => cases ho

theorem CursorPath.closedOnce (h : CursorPath none trips none) : ClosedOnce trips := by
  rintro before opening after rfl ho
  obtain ⟨id, hid⟩ := Option.isSome_iff_exists.mp ho
  obtain ⟨_, open₁, _, hstep, hafter⟩ := h.step_of_mem
  cases hstep.of_opened? hid
  exact hafter.countP_of_some

end GridClient
