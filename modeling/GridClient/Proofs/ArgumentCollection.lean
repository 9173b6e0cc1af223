import GridClient.Proofs.BindingHistory
import GridClient.Proofs.EndOfData
import GridClient.Proofs.RequestReading
import GridClient.Proofs.Settling

/-!
The arguments of a query in SQL. They are the values of the bound parameters in the order of their
numbers, which have to run from one without gaps, and a run sends them behind their count. Without
them nothing is run.
-/
namespace GridClient

/-! ### Collecting -/

/-- Entries that are numbered on from a number without gaps, and the values that they are sent as,
one for each. -/
structure Collects (first : Nat) (entries : List (UInt16 × Parameter)) (values : List WireValue) :
    Prop where
  numbered : entries.map (·.1.toNat) = List.range' first values.length
  sent : entries.map (·.2.wireValue) = values.map .ok

/-- Why the entry at a position is refused. One with another number is not even looked at. -/
inductive RefusedAt (position : Nat) : UInt16 × Parameter → Error → Prop where
  | unbound {key : UInt16} {parameter : Parameter} (gap : key.toNat ≠ position) :
    RefusedAt position (key, parameter) (.unboundParameter (UInt16.ofNat position))
  | unsent {key : UInt16} {parameter : Parameter} {e : Error} (numbered : key.toNat = position)
    (failed : parameter.wireValue = .error e) : RefusedAt position (key, parameter) e

/-- Entries numbered on from a number up to the first that is refused. -/
def StopsAt (first : Nat) (entries : List (UInt16 × Parameter)) (e : Error) : Prop :=
  ∃ passed values entry rest, entries = passed ++ entry :: rest ∧ Collects first passed values ∧
    first + passed.length < UInt16.size ∧ RefusedAt (first + passed.length) entry e

section

variable {first : Nat} {entry : UInt16 × Parameter} {entries rest : List (UInt16 × Parameter)}
  {value : WireValue} {values : List WireValue} {e : Error}

theorem collects_nil (first : Nat) : Collects first [] [] := ⟨rfl, rfl⟩

theorem collects_nil_iff : Collects first [] values ↔ values = [] := by
  constructor
  · rintro ⟨_, hsent⟩
    rwa [List.map_nil, eq_comm, List.map_eq_nil_iff] at hsent
  · rintro rfl
    exact collects_nil first

theorem collects_cons_iff : Collects first (entry :: rest) values ↔
    entry.1.toNat = first ∧ ∃ value values', entry.2.wireValue = .ok value ∧
      values = value :: values' ∧ Collects (first + 1) rest values' := by
  constructor
  · rintro ⟨hnumbered, hsent⟩
    cases values with
    | nil => cases hsent
    | cons value values' =>
      rw [List.map_cons, List.map_cons, List.cons.injEq] at hsent
      rw [List.map_cons, List.length_cons, List.range'_succ, List.cons.injEq] at hnumbered
      exact ⟨hnumbered.1, value, values', hsent.1, rfl, hnumbered.2, hsent.2⟩
  · rintro ⟨hkey, value, values', hvalue, rfl, hnumbered, hsent⟩
    refine ⟨?_, ?_⟩
    · rw [List.map_cons, hkey, hnumbered, List.length_cons, List.range'_succ]
    · rw [List.map_cons, hvalue, hsent, List.map_cons]

theorem not_stopsAt_nil : ¬ StopsAt first [] e := by
  rintro ⟨passed, _, _, _, hsplit, _⟩
  cases passed <;> cases hsplit

/-- The first entry is refused, or it passes and a later one is. -/
theorem stopsAt_cons_iff (hfirst : first < UInt16.size) : StopsAt first (entry :: rest) e ↔
    RefusedAt first entry e ∨ entry.1.toNat = first ∧
      ∃ value, entry.2.wireValue = .ok value ∧ StopsAt (first + 1) rest e := by
  constructor
  · rintro ⟨passed, values, stopped, later, hsplit, hpassed, hbound, hrefused⟩
    cases passed with
    | nil =>
      cases hsplit
      exact .inl hrefused
    | cons head passed =>
      cases hsplit
      obtain ⟨hkey, value, values', hvalue, rfl, hrest⟩ := collects_cons_iff.mp hpassed
      have hplace : first + (passed.length + 1) = first + 1 + passed.length := by omega
      rw [List.length_cons, hplace] at hbound hrefused
      exact .inr ⟨hkey, value, hvalue, passed, values', stopped, later, rfl, hrest, hbound,
        hrefused⟩
  · rintro (hrefused | ⟨hkey, value, hvalue, passed, values, stopped, later, rfl, hpassed, hbound,
      hrefused⟩)
    · exact ⟨[], [], entry, rest, rfl, collects_nil first, hfirst, hrefused⟩
    · have hplace : first + 1 + passed.length = first + (passed.length + 1) := by omega
      rw [hplace] at hbound hrefused
      exact ⟨entry :: passed, value :: values, stopped, later, rfl,
        collects_cons_iff.mpr ⟨hkey, value, values, hvalue, rfl, hpassed⟩, hbound, hrefused⟩

theorem eq_ofNat_iff {key : UInt16} (hfirst : first < UInt16.size) :
    key = UInt16.ofNat first ↔ key.toNat = first := by
  have hofNat : (UInt16.ofNat first).toNat = first := UInt16.toNat_ofNat_of_lt' hfirst
  rw [← UInt16.toNat_inj, hofNat]

/-- Behind a number there is another only if there is room for it. -/
theorem next_lt (hp : (entry :: rest).Pairwise fun a b => a.1 < b.1) (hkey : entry.1.toNat = first)
    (hrest : rest ≠ []) : first + 1 < UInt16.size := by
  obtain ⟨next, rest', rfl⟩ := List.exists_cons_of_ne_nil hrest
  have hlt : entry.1.toNat < next.1.toNat := (List.pairwise_cons.mp hp).1 next List.mem_cons_self
  have hbound : next.1.toNat < UInt16.size := next.1.toNat_lt
  omega

variable {key : UInt16} {parameter : Parameter}

theorem counter_succ (first : Nat) : UInt16.ofNat first + 1 = UInt16.ofNat (first + 1) :=
  (UInt16.ofNat_add first 1).symm

theorem argumentsFrom_cons (hfirst : first < UInt16.size) (hkey : key.toNat = first) :
    argumentsFrom (UInt16.ofNat first) ((key, parameter) :: rest) =
      parameter.wireValue >>= fun value =>
        argumentsFrom (UInt16.ofNat (first + 1)) rest >>= fun values => .ok (value :: values) := by
  rw [argumentsFrom, if_pos ((eq_ofNat_iff hfirst).mpr hkey), counter_succ]
  rfl

theorem argumentsFrom_cons_of_gap (hfirst : first < UInt16.size) (hkey : key.toNat ≠ first) :
    argumentsFrom (UInt16.ofNat first) ((key, parameter) :: rest) =
      .error (.unboundParameter (UInt16.ofNat first)) := by
  rw [argumentsFrom, if_neg fun h => hkey ((eq_ofNat_iff hfirst).mp h)]

/-- Ascending entries are collected exactly when they are numbered on and can be sent. A counter
that has gone on from zero meets no entry. -/
theorem argumentsFrom_eq_ok_iff (hp : entries.Pairwise fun a b => a.1 < b.1)
    (hroom : entries ≠ [] → first < UInt16.size) :
    argumentsFrom (UInt16.ofNat first) entries = .ok values ↔ Collects first entries values := by
  induction entries generalizing first values with
  | nil =>
    rw [collects_nil_iff, argumentsFrom, Except.ok.injEq]
    exact eq_comm
  | cons entry rest ih =>
    have hfirst := hroom (List.cons_ne_nil _ _)
    obtain ⟨key, parameter⟩ := entry
    by_cases hkey : key.toNat = first
    · have hok (values : List WireValue) :
          argumentsFrom (UInt16.ofNat (first + 1)) rest = .ok values ↔ _ :=
        ih (List.pairwise_cons.mp hp).2 (next_lt hp hkey)
      rw [argumentsFrom_cons hfirst hkey, collects_cons_iff, bind_eq_ok]
      simp only [bind_eq_ok, hok]
      constructor
      · rintro ⟨value, hvalue, values', hrest, ⟨⟩⟩
        exact ⟨hkey, value, values', hvalue, rfl, hrest⟩
      · rintro ⟨_, value, values', hvalue, rfl, hrest⟩
        exact ⟨value, hvalue, values', hrest, rfl⟩
    · rw [argumentsFrom_cons_of_gap hfirst hkey]
      exact iff_of_false (fun h => by cases h) fun h => hkey (collects_cons_iff.mp h).1

/-- Else it stops at the first that is refused. -/
theorem argumentsFrom_eq_error_iff (hp : entries.Pairwise fun a b => a.1 < b.1)
    (hroom : entries ≠ [] → first < UInt16.size) :
    argumentsFrom (UInt16.ofNat first) entries = .error e ↔ StopsAt first entries e := by
  induction entries generalizing first with
  | nil => exact iff_of_false (fun h => by cases h) not_stopsAt_nil
  | cons entry rest ih =>
    have hfirst := hroom (List.cons_ne_nil _ _)
    obtain ⟨key, parameter⟩ := entry
    rw [stopsAt_cons_iff hfirst]
    by_cases hkey : key.toNat = first
    · have herror := ih (List.pairwise_cons.mp hp).2 (next_lt hp hkey)
      rw [argumentsFrom_cons hfirst hkey, bind_eq_error]
      simp only [bind_eq_error, herror]
      constructor
      · rintro (hfailed | ⟨value, hvalue, hrest | ⟨_, _, h⟩⟩)
        · exact .inl (.unsent hkey hfailed)
        · exact .inr ⟨hkey, value, hvalue, hrest⟩
        · cases h
      · rintro (hrefused | ⟨_, value, hvalue, hrest⟩)
        · cases hrefused with
          | unbound gap => exact absurd hkey gap
          | unsent _ failed => exact .inl failed
        · exact .inr ⟨value, hvalue, .inl hrest⟩
    · rw [argumentsFrom_cons_of_gap hfirst hkey]
      constructor
      · rintro ⟨⟩
        exact .inl (.unbound hkey)
      · rintro (hrefused | ⟨heq, _⟩)
        · cases hrefused with
          | unbound => rfl
          | unsent heq => exact absurd heq hkey
        · exact absurd heq hkey

end

/-! ### Where overflow is checked -/

/-- The same in a build that checks for overflow, and stops where a number has no next one. That is
taken before there is a look at an entry, and so behind the last one too. -/
def argumentsChecked? (expected : UInt16) :
    List (UInt16 × Parameter) → Option (Except Error (List WireValue))
  | [] => if expected = 0xFFFF then none else some (.ok [])
  | (index, parameter) :: rest =>
    if expected = 0xFFFF then none
    else if index = expected then
      match parameter.wireValue with
      | .ok value => (argumentsChecked? (expected + 1) rest).map (·.map (value :: ·))
      | .error e => some (.error e)
    else some (.error (.unboundParameter expected))

/-- Such a build collects what any other does, unless it stops. -/
theorem argumentsFrom_of_checked {expected : UInt16} {entries : List (UInt16 × Parameter)}
    {result : Except Error (List WireValue)}
    (h : argumentsChecked? expected entries = some result) :
    argumentsFrom expected entries = result := by
  induction entries generalizing expected result with
  | nil =>
    rw [argumentsChecked?] at h
    split at h
    · cases h
    · cases h
      rfl
  | cons entry rest ih =>
    obtain ⟨index, parameter⟩ := entry
    rw [argumentsChecked?] at h
    rw [argumentsFrom]
    split at h
    · cases h
    · by_cases hindex : index = expected
      · rw [if_pos hindex] at h ⊢
        cases hvalue : parameter.wireValue with
        | error e =>
          simp only [hvalue] at h
          cases h
          rfl
        | ok value =>
          simp only [hvalue] at h
          obtain ⟨values, hvalues, rfl⟩ := Option.map_eq_some_iff.mp h
          rw [ih hvalues]
          cases values <;> rfl
      · rw [if_neg hindex] at h ⊢
        cases h
        rfl

theorem argumentsChecked?_greatest (entries : List (UInt16 × Parameter)) :
    argumentsChecked? 0xFFFF entries = none := by
  cases entries with
  | nil => rfl
  | cons entry rest => rfl

theorem ofNat_ne_greatest {n : Nat} (h : n < 0xFFFF) : UInt16.ofNat n ≠ 0xFFFF := by
  have hsize : n < UInt16.size := Nat.lt_trans h (by decide)
  rw [ne_eq, ← UInt16.toNat_inj, UInt16.toNat_ofNat_of_lt' hsize]
  exact Nat.ne_of_lt h

/-- It stops exactly where an entry was collected for every number from the first on but the
greatest. -/
theorem argumentsChecked?_eq_none_iff {first room : Nat} {entries : List (UInt16 × Parameter)}
    (hroom : first + room = 0xFFFF) :
    argumentsChecked? (UInt16.ofNat first) entries = none ↔
      ∃ values, values.length = room ∧ Collects first (entries.take room) values := by
  induction room generalizing first entries with
  | zero =>
    obtain rfl : first = 0xFFFF := hroom
    exact iff_of_true (argumentsChecked?_greatest entries) ⟨[], rfl, collects_nil _⟩
  | succ room ih =>
    have hne : UInt16.ofNat first ≠ 0xFFFF := ofNat_ne_greatest (by omega)
    cases entries with
    | nil =>
      rw [argumentsChecked?, if_neg hne]
      refine iff_of_false (fun h => by cases h) ?_
      rintro ⟨values, hlength, hcollects⟩
      cases collects_nil_iff.mp hcollects
      cases hlength
    | cons entry rest =>
      obtain ⟨key, parameter⟩ := entry
      have hsize : first < UInt16.size := Nat.lt_of_le_of_lt (by omega : first ≤ 0xFFFF) (by decide)
      have hrest : argumentsChecked? (UInt16.ofNat (first + 1)) rest = none ↔ _ := ih (by omega)
      rw [argumentsChecked?, if_neg hne, List.take_succ_cons, counter_succ]
      by_cases hkey : key.toNat = first
      · rw [if_pos ((eq_ofNat_iff hsize).mpr hkey)]
        cases hvalue : parameter.wireValue with
        | error e =>
          refine iff_of_false (fun h => by cases h) ?_
          rintro ⟨_, _, hcollects⟩
          obtain ⟨_, _, _, hsent, _⟩ := collects_cons_iff.mp hcollects
          cases hvalue.symm.trans hsent
        | ok value =>
          simp only [Option.map_eq_none_iff, hrest]
          constructor
          · rintro ⟨values, hlength, hcollects⟩
            exact ⟨value :: values, congrArg Nat.succ hlength,
              collects_cons_iff.mpr ⟨hkey, value, values, hvalue, rfl, hcollects⟩⟩
          · rintro ⟨_, hlength, hcollects⟩
            obtain ⟨_, _, values, _, rfl, hcollects'⟩ := collects_cons_iff.mp hcollects
            exact ⟨values, Nat.succ.inj hlength, hcollects'⟩
      · rw [if_neg fun h => hkey ((eq_ofNat_iff hsize).mp h)]
        refine iff_of_false (fun h => by cases h) ?_
        rintro ⟨_, _, hcollects⟩
        exact hkey (collects_cons_iff.mp hcollects).1

/-! ### Bound parameters -/

namespace Bindings

variable {b : Bindings Parameter}

theorem arguments_eq_ok_iff {values : List WireValue} :
    b.arguments = .ok values ↔ Collects 1 b.entries values :=
  argumentsFrom_eq_ok_iff b.ascending fun _ => by decide

theorem arguments_eq_error_iff {e : Error} : b.arguments = .error e ↔ StopsAt 1 b.entries e :=
  argumentsFrom_eq_error_iff b.ascending fun _ => by decide

/-- The arguments in a build that checks for overflow. -/
def argumentsChecked? (b : Bindings Parameter) : Option (Except Error (List WireValue)) :=
  GridClient.argumentsChecked? 1 b.entries

theorem argumentsChecked?_eq_none_iff : b.argumentsChecked? = none ↔
    ∃ values, values.length = 0xFFFE ∧ Collects 1 (b.entries.take 0xFFFE) values :=
  GridClient.argumentsChecked?_eq_none_iff rfl

/-- Where the second parameter is bound and the first is not, it is the first that is missing. -/
example (parameter : Parameter) :
    (ofList [(2, parameter)]).arguments = .error (.unboundParameter 1) := by rfl

end Bindings

/-! ### Running -/

/-- The request that runs a query over a connection with some options. -/
def Request.ofQuery (sql : String) (o : Options) (args : List WireValue) : Request :=
  .execute sql o.distributedJoins o.pageSize args

/-- The arguments stand in their order behind their count, at the end of the request. -/
theorem Request.payload_ofQuery {sql : String} {o : Options} {args : List WireValue}
    {payload : Bytes} (h : (ofQuery sql o args).encode = .ok payload) :
    ∃ text values, encodeString sql = .ok text ∧ encodeAll WireValue.encode args = .ok values ∧
      payload = Command.execute.code :: (encodeBool o.distributedJoins ++ (text ++
        (encodeInt32 o.pageSize ++ (LittleEndian.encode 4 args.length ++ values)))) := by
  obtain ⟨fields, hfields, rfl⟩ := map_eq_ok.mp h
  obtain ⟨text, htext, _, values, hvalues, rfl⟩ := encodeFields_execute_eq_ok.mp hfields
  exact ⟨text, values, htext, hvalues, rfl⟩

namespace Connection

variable {ν : Type} [Network ν]

/-- What is sent for a request: at most the request. It is sent over any stream, unless something in
it is too long for its length field, and its frame goes out as far as the stream takes it. -/
structure Carries (c : Connection (Recorded ν)) (request : Request) (sent : List Trip)
    (c' : Connection (Recorded ν)) : Prop where
  exchanges : c.Exchanges sent c'
  requests : sent.map Trip.request <+: [request]
  unsent_iff : sent = [] ↔ c.isOpen = false ∨ ¬ request.Writable
  written : ∀ payload, c.isOpen = true → request.encode = .ok payload →
    ∃ taken part : Bytes, c'.transcript = c.transcript ++ (taken.map .sent ++ part.map .got) ∧
      c.plain.channel.Sends payload taken (c.plain.channel.send payload).1
        (c.plain.channel.send payload).2.stream ∧
      ((c.plain.channel.send payload).1 = .ok () → taken = Frame.encode payload)

variable {c c' : Connection (Recorded ν)} {request : Request} {payload taken part : Bytes}
  {result : Except Error Unit} {s : ν} {trip : Trip}

theorem carries_nothing (hexchanges : c.Exchanges [] c')
    (h : c.isOpen = false ∨ ¬ request.Writable) : c.Carries request [] c' where
  exchanges := hexchanges
  requests := List.nil_prefix
  unsent_iff := iff_of_true rfl h
  written := by
    intro payload hopen he
    rcases h with hclosed | hunwritable
    · cases hopen.symm.trans hclosed
    · exact absurd (Request.exists_encode_iff.mp ⟨payload, he⟩) hunwritable

theorem carries_one (hexchanges : c.Exchanges [trip] c') (hrequest : trip.request = request)
    (hopen : c.isOpen = true) (he : request.encode = .ok payload)
    (htranscript : c'.transcript = c.transcript ++ (taken.map .sent ++ part.map .got))
    (hsends : c.plain.channel.Sends payload taken result s) : c.Carries request [trip] c' where
  exchanges := hexchanges
  requests := by
    subst hrequest
    exact List.prefix_refl _
  unsent_iff := by
    have hwritable : request.Writable := Request.exists_encode_iff.mp ⟨payload, he⟩
    simp [hopen, hwritable]
  written := by
    intro payload' _ he'
    cases he.symm.trans he'
    rw [hsends.send_eq]
    exact ⟨taken, part, htranscript, hsends, hsends.taken_prefix.2⟩

/-- An exchange carries its request, and what goes well has been answered over a stream that stays
open. -/
theorem carries_exchange {α : Type} (c : Connection (Recorded ν)) (request : Request)
    (decode : Bytes → Except Error α) :
    ∃ sent, c.Carries request sent (c.exchange request.write decode).2 ∧
      ∀ a, (c.exchange request.write decode).1 = .ok a →
        (c.exchange request.write decode).2.isOpen = c.isOpen ∧
          ∃ answer, sent = [⟨request, some answer⟩] := by
  obtain ⟨h, _, _⟩ := exchange_recorded request.write decode c
  obtain ⟨⟨result, c'⟩, hr⟩ : ∃ r, c.exchange request.write decode = r := ⟨_, rfl⟩
  rw [hr] at h ⊢
  cases h with
  | closed hclosed =>
    exact ⟨[], carries_nothing (exchanges_nil rfl rfl) (.inl hclosed), fun _ h => by cases h⟩
  | unsent _ hunbuilt =>
    have hunwritable : ¬ request.Writable := by
      intro hwritable
      obtain ⟨payload, hp⟩ := Request.exists_encode_iff.mpr hwritable
      cases (Request.encode_of_write_error hunbuilt).symm.trans hp
    exact ⟨[], carries_nothing (exchanges_nil rfl rfl) (.inr hunwritable), fun _ h => by cases h⟩
  | answered hopen hbuilt hopen' hsends hshort htranscript =>
    have he := Request.write_eq_ok_iff.mp hbuilt
    have hexchanges := exchanges_answered hopen hopen' he hshort htranscript
    exact ⟨_, carries_one hexchanges rfl hopen he htranscript hsends,
      fun _ _ => ⟨hopen'.trans hopen.symm, _, rfl⟩⟩
  | broken hopen hbuilt hclosed hfails hoff htranscript =>
    have he := Request.write_eq_ok_iff.mp hbuilt
    have hexchanges := exchanges_broken hopen hclosed he hoff htranscript
    obtain ⟨_, _, hsends⟩ := hfails.sends
    exact ⟨_, carries_one hexchanges rfl hopen he htranscript hsends, fun _ h => by cases h⟩

end Connection

namespace DataQuery

variable {ν : Type} [Network ν]

theorem sql_close (q : DataQuery) (c : Connection ν) : (q.close c).2.1.sql = q.sql := by
  unfold close
  cases q.cursor with
  | none => rfl
  | some cursor =>
    dsimp only
    split <;> rfl

theorem close_of_none {q : DataQuery} (h : q.id? = none) (c : Connection ν) :
    q.close c = (.ok .success, q, c) := by
  rw [id?, Option.map_eq_none_iff] at h
  rw [close, h]

/-- An open cursor is closed by an exchange, which goes well when the closing does. -/
theorem close_of_some {q : DataQuery} {cursor : Cursor} (h : q.cursor = some cursor)
    (c : Connection ν) :
    let exchanged := c.exchange (Request.close cursor.id).write Decoder.closedCursor.decode
    (q.close c).2.2 = exchanged.2 ∧
      ∀ outcome, (q.close c).1 = .ok outcome → ∃ closed, exchanged.1 = .ok closed := by
  intro exchanged
  obtain ⟨⟨result, c'⟩, hr⟩ : ∃ r, c.exchange (Request.close cursor.id).write
    Decoder.closedCursor.decode = r := ⟨_, rfl⟩
  have hexchanged : exchanged = (result, c') := hr
  unfold close
  simp only [h, hr, hexchanged]
  cases result with
  | ok closed => exact ⟨rfl, fun _ _ => ⟨closed, rfl⟩⟩
  | error e => exact ⟨rfl, fun _ hok => by cases hok⟩

/-- When the cursor of an earlier run cannot be closed, a query is not run. -/
theorem execute_of_unclosed {q : DataQuery} {c : Connection ν} {e : Error}
    (parameters : Bindings Parameter) (h : (q.close c).1 = .error e) :
    q.execute parameters c = q.close c := by
  unfold execute
  obtain ⟨⟨closed, q', c'⟩, hr⟩ : ∃ r, q.close c = r := ⟨_, rfl⟩
  rw [hr] at h ⊢
  cases h
  rfl

theorem execute_of_closed {q : DataQuery} {c : Connection ν} {outcome : Outcome}
    (parameters : Bindings Parameter) (h : (q.close c).1 = .ok outcome) :
    q.execute parameters c = (q.close c).2.1.run parameters (q.close c).2.2 := by
  unfold execute
  obtain ⟨⟨closed, q', c'⟩, hr⟩ : ∃ r, q.close c = r := ⟨_, rfl⟩
  rw [hr] at h ⊢
  cases h
  rfl

theorem run_of_uncollected {parameters : Bindings Parameter} {e : Error}
    (h : parameters.arguments = .error e) (q : DataQuery) (c : Connection ν) :
    q.run parameters c = (.error e, q, c) := by
  unfold run
  rw [h]

/-- What closing a query sends: the request to close its cursor, or nothing if it has none. The
stream stays open when that goes well. -/
structure Closes (q : DataQuery) (c : Connection (Recorded ν)) (closing : List Trip) : Prop where
  exchanges : c.Exchanges closing (q.close c).2.2
  unopened : q.id? = none → closing = [] ∧ q.close c = (.ok .success, q, c)
  opened : ∀ id, q.id? = some id → c.Carries (.close id) closing (q.close c).2.2
  isOpen_eq : ∀ outcome, (q.close c).1 = .ok outcome → (q.close c).2.2.isOpen = c.isOpen

theorem exists_closes (q : DataQuery) (c : Connection (Recorded ν)) :
    ∃ closing, q.Closes c closing := by
  cases hid : q.id? with
  | none =>
    have hclose := close_of_none hid c
    refine ⟨[], Connection.exchanges_nil ?_ ?_, fun _ => ⟨rfl, hclose⟩, fun _ h => ?_, fun _ _ => ?_⟩
    · rw [hclose]
    · rw [hclose]
    · cases hid.symm.trans h
    · rw [hclose]
  | some id =>
    obtain ⟨cursor, hcursor, rfl⟩ := Option.map_eq_some_iff.mp hid
    obtain ⟨closing, hcarries, hanswered⟩ :=
      c.carries_exchange (.close cursor.id) Decoder.closedCursor.decode
    obtain ⟨hconnection, hcloses⟩ := close_of_some hcursor c
    rw [← hconnection] at hcarries hanswered
    refine ⟨closing, hcarries.exchanges, fun h => ?_, fun id h => ?_, fun outcome h => ?_⟩
    · cases hid.symm.trans h
    · cases hid.symm.trans h
      exact hcarries
    · obtain ⟨closed, hclosed⟩ := hcloses outcome h
      exact (hanswered closed hclosed).1

/-- A run whose arguments are collected carries them, and one that goes well has been answered. -/
theorem carries_run {parameters : Bindings Parameter} {args : List WireValue}
    (h : parameters.arguments = .ok args) (q : DataQuery) (c : Connection (Recorded ν)) :
    ∃ sent, c.Carries (.ofQuery q.sql c.options args) sent (q.run parameters c).2.2 ∧
      ∀ outcome, (q.run parameters c).1 = .ok outcome →
        ∃ answer, sent = [⟨.ofQuery q.sql c.options args, some answer⟩] := by
  obtain ⟨sent, hcarries, hanswered⟩ :=
    c.carries_exchange (.ofQuery q.sql c.options args) Decoder.executeResult.decode
  obtain ⟨⟨result, c'⟩, hr⟩ : ∃ r, c.exchange (Request.ofQuery q.sql c.options args).write
    Decoder.executeResult.decode = r := ⟨_, rfl⟩
  rw [hr] at hcarries hanswered
  rw [Request.ofQuery] at hr
  refine ⟨sent, ?_, ?_⟩
  · unfold run
    simp only [h, hr]
    cases result <;> exact hcarries
  · intro outcome houtcome
    unfold run at houtcome
    simp only [h, hr] at houtcome
    cases result with
    | error e => cases houtcome
    | ok executed => exact (hanswered executed rfl).2

/-- What a run of a query sends: requests to close the cursor of an earlier run, and then the query
itself behind its arguments, if the cursor was closed and the arguments are collected. -/
structure Runs (q : DataQuery) (parameters : Bindings Parameter) (c : Connection (Recorded ν))
    (closing sent : List Trip) : Prop where
  exchanges : c.Exchanges (closing ++ sent) (q.execute parameters c).2.2
  closes : q.Closes c closing
  unclosed : ∀ e, (q.close c).1 = .error e → sent = [] ∧ q.execute parameters c = q.close c
  uncollected : ∀ e, parameters.arguments = .error e →
    sent = [] ∧ (q.execute parameters c).2.1.cursor = none ∧
      (q.execute parameters c).2.2 = (q.close c).2.2 ∧
      (q.execute parameters c).1 = ((q.close c).1 >>= fun _ => .error e)
  executes : ∀ outcome args, (q.close c).1 = .ok outcome → parameters.arguments = .ok args →
    (q.close c).2.2.Carries (.ofQuery q.sql c.options args) sent (q.execute parameters c).2.2 ∧
    ∀ outcome, (q.execute parameters c).1 = .ok outcome →
      ∃ answer, sent = [⟨.ofQuery q.sql c.options args, some answer⟩]

section

variable {q : DataQuery} {parameters : Bindings Parameter} {c : Connection (Recorded ν)}
  {closing : List Trip} {outcome : Outcome} {e : Error}

theorem Closes.runs_of_unclosed (hcloses : q.Closes c closing) (h : (q.close c).1 = .error e) :
    q.Runs parameters c closing [] := by
  have hexecuted := execute_of_unclosed parameters h
  have hfails := (congrArg Prod.fst hexecuted).trans h
  refine ⟨?_, hcloses, fun _ _ => ⟨rfl, hexecuted⟩, fun e' _ => ?_, fun _ _ hok => ?_⟩
  · rw [hexecuted, List.append_nil]
    exact hcloses.exchanges
  · exact ⟨rfl, cursor_of_failed_execute hfails, congrArg (·.2.2) hexecuted, by rw [hfails, h]; rfl⟩
  · cases h.symm.trans hok

theorem Closes.runs_of_uncollected (hcloses : q.Closes c closing)
    (h : (q.close c).1 = .ok outcome) (hcollected : parameters.arguments = .error e) :
    q.Runs parameters c closing [] := by
  have hexecuted := execute_of_closed parameters h
  rw [run_of_uncollected hcollected] at hexecuted
  have hfails := congrArg Prod.fst hexecuted
  refine ⟨?_, hcloses, fun _ herror => ?_, fun e' herror => ?_, fun _ _ _ hok => ?_⟩
  · rw [hexecuted, List.append_nil]
    exact hcloses.exchanges
  · cases h.symm.trans herror
  · cases hcollected.symm.trans herror
    exact ⟨rfl, cursor_of_failed_execute hfails, congrArg (·.2.2) hexecuted, by rw [hfails, h]; rfl⟩
  · cases hcollected.symm.trans hok

theorem Closes.runs_of_collected {args : List WireValue} (hcloses : q.Closes c closing)
    (h : (q.close c).1 = .ok outcome) (hcollected : parameters.arguments = .ok args) :
    ∃ sent, q.Runs parameters c closing sent := by
  obtain ⟨sent, hsent, hanswered⟩ := carries_run hcollected (q.close c).2.1 (q.close c).2.2
  rw [q.sql_close c, (q.settles_close c).options, ← execute_of_closed parameters h]
    at hsent hanswered
  refine ⟨sent, hcloses.exchanges.append hsent.exchanges, hcloses, fun _ herror => ?_,
    fun _ herror => ?_, fun _ args' _ hok => ?_⟩
  · cases h.symm.trans herror
  · cases hcollected.symm.trans herror
  · cases hcollected.symm.trans hok
    exact ⟨hsent, hanswered⟩

end

theorem exists_runs (q : DataQuery) (parameters : Bindings Parameter)
    (c : Connection (Recorded ν)) : ∃ closing sent, q.Runs parameters c closing sent := by
  obtain ⟨closing, hcloses⟩ := q.exists_closes c
  cases hclosed : (q.close c).1 with
  | error e => exact ⟨closing, [], hcloses.runs_of_unclosed hclosed⟩
  | ok outcome =>
    cases hcollected : parameters.arguments with
    | error e => exact ⟨closing, [], hcloses.runs_of_uncollected hclosed hcollected⟩
    | ok args => exact ⟨closing, hcloses.runs_of_collected hclosed hcollected⟩

/-- The arguments of a run are the values of the parameters in the order of their numbers, if these
go up from one without gaps and every value can be sent. A build that checks for overflow stops
behind 65534 of them. Once the cursor of an earlier run is closed, they are sent and nothing else. -/
theorem execute_sends_arguments {μ : Type} [Network μ] (s : Statement μ) (ops : List StatementOp)
    (q : DataQuery) (c : Connection (Recorded ν)) :
    let parameters := (s.applyAll ops).parameters
    let changes := ops.filterMap StatementOp.parameterChange?
    (∀ key parameter, (key, parameter) ∈ parameters.entries ↔
      s.parameters.boundAfter changes key = some parameter) ∧
    (∀ values, parameters.arguments = .ok values ↔ Collects 1 parameters.entries values) ∧
    (∀ e, parameters.arguments = .error e ↔ StopsAt 1 parameters.entries e) ∧
    (∀ result, parameters.argumentsChecked? = some result → parameters.arguments = result) ∧
    (parameters.argumentsChecked? = none ↔ ∃ values, values.length = 0xFFFE ∧
      Collects 1 (parameters.entries.take 0xFFFE) values) ∧
    (∀ args payload, (Request.ofQuery q.sql c.options args).encode = .ok payload →
      ∃ text values, encodeString q.sql = .ok text ∧
        encodeAll WireValue.encode args = .ok values ∧
        payload = Command.execute.code :: (encodeBool c.options.distributedJoins ++ (text ++
          (encodeInt32 c.options.pageSize ++ (LittleEndian.encode 4 args.length ++ values))))) ∧
    ∃ closing sent, q.Runs parameters c closing sent := by
  intro parameters changes
  refine ⟨fun key parameter => ?_, fun _ => Bindings.arguments_eq_ok_iff,
    fun _ => Bindings.arguments_eq_error_iff, fun _ => argumentsFrom_of_checked,
    Bindings.argumentsChecked?_eq_none_iff, fun _ _ => Request.payload_ofQuery,
    q.exists_runs parameters c⟩
  rw [Bindings.mem_entries_iff, ← Bindings.get?_changeAll, ← Statement.parameters_applyAll]

end DataQuery

end GridClient
