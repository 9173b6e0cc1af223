import GridClient.Proofs.InternalFaults
import GridClient.Proofs.RowWarnings

/-!
The numbers that the rows of a query in SQL go by. Each row that is entered has the number behind
that of the last one, whatever pages the rows come in. The number is a signed word and nothing stops
it: behind the greatest that the word holds come the negative ones.
-/
namespace GridClient

variable {ν : Type}

/-- What the fetch tells of a place is told of the row of this number, which is the one at hand. -/
structure Fetched.Locates (f : Fetched DataQuery ν) (number : Int32) : Prop where
  rowNumber_eq : f.query.rowNumber = number
  warning : ∀ warning ∈ f.warnings, warning.row = number
  failure : ∀ row column, f.result = .error (.columnRetrieval row column) → row = number

theorem Conversion.row_of_report {conversion : Conversion} {number row : Int32}
    {column column' : UInt16}
    (h : conversion.report number column = .error (.columnRetrieval row column')) :
    row = number := by
  cases conversion
  all_goals cases h
  rfl

theorem RowWarnings.row_eq {row : Int32} {bound : Nat} {warnings : List StatusRecord}
    (h : RowWarnings row bound warnings) : ∀ warning ∈ warnings, warning.row = row := by
  obtain ⟨columns, _, _, rfl⟩ := h
  intro warning hwarning
  obtain ⟨column, _, rfl⟩ := List.mem_map.mp hwarning
  rfl

namespace DataQuery

variable {q q' executed reached : DataQuery} {parameters : Bindings Parameter} {c c' : Connection ν}
  {cursor : Cursor} {row : Row} {columns : Bindings DataBuffer} {count : Nat}

/-! ### One fetch -/

theorem deliverRow_locates (q : DataQuery) (cursor : Cursor) (row : Row) (c : Connection ν)
    (columns : Bindings DataBuffer) : (q.deliverRow cursor row c columns).Locates q.rowNumber := by
  unfold deliverRow
  split
  · exact ⟨rfl, nofun, nofun⟩
  · have hcount : 1 + row.size ≤ UInt16.size := by omega
    obtain ⟨_, hwarnings⟩ :=
      row.rowWarnings_deliver (s := { columns }) (.nil q.rowNumber 1) hcount
    obtain ⟨⟨result, behind, sink⟩, hdeliver⟩ : ∃ r, row.deliver q.rowNumber row.size 1
      { columns } = r := ⟨_, rfl⟩
    rw [show UInt16.ofNat 1 = 1 from rfl, hdeliver] at hwarnings
    simp only [hdeliver]
    rcases result with fault | _
    · cases fault with
      | undecodable column => exact ⟨rfl, hwarnings.row_eq, by rintro _ _ ⟨⟩; rfl⟩
      | refused e =>
        refine ⟨rfl, hwarnings.row_eq, ?_⟩
        rintro row' column ⟨⟩
        obtain ⟨_, _, hreport⟩ := Row.report_of_deliver hdeliver
        exact Conversion.row_of_report hreport
    · exact ⟨rfl, hwarnings.row_eq, nofun⟩

variable [Network ν]

/-- A row that is entered takes the next number. -/
theorem Enters.locates (h : q.Enters c cursor row c') (columns : Bindings DataBuffer) :
    (q.fetch c columns).Locates (q.rowNumber + 1) := by
  rw [h.fetch]
  exact deliverRow_locates _ cursor row c' columns

omit [Network ν] in
theorem rowNumber_of_enterRow (h : ∀ entered, cursor.increment ≠ .ok true entered) :
    (q.enterRow cursor c columns).query.rowNumber = q.rowNumber := by
  unfold enterRow
  cases hincrement : cursor.increment with
  | error e stuck => rfl
  | ok entered left =>
    cases entered with
    | false => rfl
    | true => exact absurd hincrement (h left)

/-- A fetch that enters no row leaves the number. -/
theorem rowNumber_of_fetch (h : ∀ cursor row c', ¬ q.Enters c cursor row c') :
    (q.fetch c columns).query.rowNumber = q.rowNumber := by
  unfold fetch
  split
  · rfl
  · rename_i start hcursor
    split
    · rfl
    · rename_i hstalled
      split
      · rename_i hnext
        split
        · rfl
        · rfl
        · rename_i loaded c' hload
          refine rowNumber_of_enterRow fun entered hincrement => ?_
          obtain ⟨row, hcurrent⟩ := Cursor.currentRow_of_increment hincrement
          exact h entered row c' ⟨hstalled,
            ⟨start, loaded, hcursor, hnext, hload, hincrement⟩, Cursor.row_of_currentRow hcurrent⟩
      · rfl

/-! ### Any number of fetches -/

/-- Fetches one after another, over any connections and with any buffers. So many of them, as
counted, enter a row. -/
inductive Fetching (ν : Type) [Network ν] (q : DataQuery) : Nat → DataQuery → Prop where
  | none : Fetching ν q 0 q
  | entering {count : Nat} {reached : DataQuery} {c c' : Connection ν} {cursor : Cursor} {row : Row}
    (earlier : Fetching ν q count reached) (enters : reached.Enters c cursor row c')
    (columns : Bindings DataBuffer) : Fetching ν q (count + 1) (reached.fetch c columns).query
  | idle {count : Nat} {reached : DataQuery} {c : Connection ν}
    (earlier : Fetching ν q count reached)
    (enters : ∀ cursor row c', ¬ reached.Enters c cursor row c')
    (columns : Bindings DataBuffer) : Fetching ν q count (reached.fetch c columns).query

theorem Fetching.rowNumber (h : Fetching ν q count reached) :
    reached.rowNumber = q.rowNumber + Int32.ofNat count := by
  induction h with
  | none => exact (Int32.add_zero _).symm
  | entering _ enters columns ih =>
    rw [(enters.locates columns).rowNumber_eq, ih, Int32.ofNat_add, Int32.add_assoc]
    rfl
  | idle _ enters columns ih => rw [rowNumber_of_fetch enters, ih]

/-- A run that goes well begins to count anew. -/
theorem rowNumber_of_execute {outcome : Outcome}
    (h : q.execute parameters c = (.ok outcome, executed, c')) : executed.rowNumber = 0 := by
  unfold execute at h
  split at h
  · cases h
  · unfold run at h
    split at h
    · cases h
    · simp only at h
      split at h
      · cases h
      · cases h
        rfl

/-! ### A peer with pages of one row -/

/-- A text of three characters. -/
def threeLetters : Cell := ⟨.string "abc", by decide, _, rfl⟩

/-- A buffer for the first column that only one character fits. -/
def oneLetter : Bindings DataBuffer := .ofList [(1, ⟨.char, some [0, 0], none⟩)]

/-- A connection to a peer that opens a cursor and has so many pages for it, each of one row. -/
def toPages (pages : Nat) : Connection ScriptedPeer :=
  { channel := ⟨⟨none, .message ([0] ++ encodeInt64 5 ++ encodeInt32 0) ::
      ScriptedPeer.pageScript 5 (List.replicate pages [[threeLetters]]), [], false, [], []⟩, []⟩
    isOpen := true }

/-- The run opens the cursor, and the peer still has all of its pages. -/
theorem execute_toPages (pages : Nat) :
    ∃ c messages, ({ sql := "" } : DataQuery).execute {} (toPages pages) =
        (.ok .success, ⟨"", [], some (Cursor.opened 5), 0, none⟩, c) ∧ c.isOpen = true ∧
      c.network = ⟨none, ScriptedPeer.pageScript 5 (List.replicate pages [[threeLetters]]),
        messages, false, [], []⟩ := by
  let request : Bytes := [1, 0, 9, 0, 0, 0, 0, 0, 4, 0, 0, 0, 0, 0, 0]
  let opened := [0] ++ encodeInt64 5 ++ encodeInt32 0
  let c : Connection ScriptedPeer := { toPages pages with
    channel := ⟨⟨none, ScriptedPeer.pageScript 5 (List.replicate pages [[threeLetters]]),
      [request], false, [], []⟩, opened⟩
    outbox := request }
  have hrequest : (Request.execute "" ({} : Options).distributedJoins ({} : Options).pageSize
      []).encode = .ok request := rfl
  have hopens : DataQuery.Opens { sql := "" } {} (toPages pages) ⟨5, []⟩ c :=
    ⟨[], request, opened, rfl, hrequest,
      ScriptedPeer.answers rfl rfl (List.cons_ne_nil _ _) (by decide) (by decide), rfl⟩
  exact ⟨c, [request], run_of_opens hopens, rfl, rfl⟩

/-- Each of the pages is asked for by a fetch of its own, which delivers its row. -/
theorem enters_page (n : Nat) :
    ∃ executed c f, ({ sql := "" } : DataQuery).execute {} (toPages (n + 1)) =
        (.ok .success, executed, c) ∧
      (executed.fetches c (List.replicate (n + 1) oneLetter))[n]? = some f ∧
      f.Enters (Int32.ofNat (n + 1)) (some [threeLetters]) oneLetter := by
  obtain ⟨c, _, hexecute, hopen, hpeer⟩ := execute_toPages (n + 1)
  obtain ⟨pages, hpages⟩ : ∃ pages, pages = List.replicate (n + 1) [[threeLetters]] := ⟨_, rfl⟩
  rw [← hpages] at hpeer
  have hrows : ∀ rows ∈ pages, rows = [[threeLetters]] := by
    rw [hpages]
    exact fun rows hrows => List.eq_of_mem_replicate hrows
  have hserved : ServesPages 5 c pages := by
    refine ScriptedPeer.servesPages hopen hpeer fun rows h => ?_
    rw [hrows rows h]
    decide
  have hcountable : Countable pages := by
    intro rows h
    rw [hrows rows h]
    exact ⟨by decide, by decide⟩
  have hne : pages ≠ [] := by
    rw [hpages]
    exact List.cons_ne_nil _ _
  have hflatten : pages.flatten = List.replicate (n + 1) [threeLetters] := by
    rw [hpages, List.flatten_replicate_singleton]
  have hawaits : Awaits ⟨"", [], some (Cursor.opened 5), 0, none⟩ 5 pages.flatten 0 c :=
    ⟨⟨_, rfl, .opened hne hserved hcountable rfl⟩, rfl, rfl⟩
  have hlast {α : Type} (a : α) : (List.replicate (n + 1) a)[n]? = some a := by
    rw [List.getElem?_replicate, if_pos (Nat.lt_succ_self n)]
  obtain ⟨f, hget, henters⟩ := hawaits.fetches _ (hlast oneLetter)
  rw [hflatten, hlast, Nat.zero_add] at henters
  exact ⟨_, c, f, hexecute, hget, henters⟩

/-! ### The numbers -/

/-- Behind a run that goes well, the rows that the fetches enter are counted in a signed word: as
many as it holds have their own numbers, and from there the numbers go on with the least, which is
negative. What the fetch that enters a row tells of a place has the number of that row. -/
theorem row_numbers_wrap {outcome : Outcome}
    (hexecute : q.execute parameters c = (.ok outcome, executed, c'))
    (h : Fetching ν executed count reached) :
    reached.rowNumber = Int32.ofNat count ∧
      reached.rowNumber.toInt = (count : Int).bmod Int32.size ∧
      (count ≤ 0x7FFFFFFF → reached.rowNumber.toInt = count) ∧
      ∀ (c : Connection ν) cursor row c', reached.Enters c cursor row c' →
        ∀ columns, (reached.fetch c columns).Locates (Int32.ofNat (count + 1)) := by
  have hnumber : reached.rowNumber = Int32.ofNat count := by
    rw [h.rowNumber, rowNumber_of_execute hexecute, Int32.zero_add]
  refine ⟨hnumber, ?_, ?_, ?_⟩
  · rw [hnumber]
    exact Int32.toInt_ofNat'
  · intro hle
    rw [hnumber]
    exact Int32.toInt_ofNat_of_lt (Nat.lt_succ_of_le hle)
  · intro c cursor row c' henters columns
    have hsucc : reached.rowNumber + 1 = Int32.ofNat (count + 1) := by
      rw [hnumber, Int32.ofNat_add]
      rfl
    exact hsucc ▸ henters.locates columns

/-- A row that is entered, and a fetch behind it that finds no other. -/
theorem row_numbers_wrap_one_row :
    ∃ executed c cursor row c', ({ sql := "" } : DataQuery).execute {} (toPages 1) =
        (.ok .success, executed, c) ∧
      executed.Enters c cursor row c' ∧ (executed.fetch c oneLetter).Locates 1 ∧
      Fetching ScriptedPeer executed 1 (executed.fetch c oneLetter).query ∧
      (executed.fetch c oneLetter).query.rowNumber.toInt = 1 := by
  obtain ⟨c, _, hexecute, hopen, hpeer⟩ := execute_toPages 1
  obtain ⟨_, c', hrequest, hanswers, _⟩ := ScriptedPeer.answers_page hopen hpeer (by decide) 5
  have hload : (Cursor.opened 5).loadPage c =
      (.ok true, ⟨5, some ⟨4, 1, 0, ⟨4, threeLetters.bytes⟩⟩, 1, 0, true⟩, c') :=
    Cursor.loadPage_of_first rfl (Cursor.exchange_of_page hrequest hanswers (by decide)) rfl rfl
      rfl rfl
  have henters : Enters ⟨"", [], some (Cursor.opened 5), 0, none⟩ c
      ⟨5, some ⟨4, 1, 0, ⟨4, threeLetters.bytes⟩⟩, 1, 1, true⟩
      ⟨4, 1, 0, ⟨4, threeLetters.bytes⟩⟩ c' :=
    ⟨rfl, ⟨_, _, rfl, rfl, hload, rfl⟩, rfl⟩
  have hnone : Fetching ScriptedPeer ⟨"", [], some (Cursor.opened 5), 0, none⟩ 0 _ := .none
  have hfetching := hnone.entering henters oneLetter
  obtain ⟨_, _, _, hlocates⟩ := row_numbers_wrap hexecute hnone
  obtain ⟨_, _, hnumber, _⟩ := row_numbers_wrap hexecute hfetching
  exact ⟨_, c, _, _, c', hexecute, henters, hlocates c _ _ c' henters oneLetter, hfetching,
    hnumber (by decide)⟩

/-- Behind as many rows as the word has positive numbers, the next row goes by the least number
there is, in the query and in the warning that its text was cut. -/
theorem row_number_negative_behind_many :
    ∃ executed c f, ({ sql := "" } : DataQuery).execute {} (toPages (0x7FFFFFFF + 1)) =
        (.ok .success, executed, c) ∧
      (executed.fetches c (List.replicate (0x7FFFFFFF + 1) oneLetter))[0x7FFFFFFF]? = some f ∧
      f.query.rowNumber.toInt = -0x80000000 ∧
      f.warnings = [.truncation (-0x80000000) 1] := by
  obtain ⟨executed, c, f, hexecute, hget, hnumber, hdelivered⟩ := enters_page 0x7FFFFFFF
  have haccepted : ∀ i < [threeLetters.column].length, ∃ warnings,
      reportAt (-0x80000000) [threeLetters.column] oneLetter i = .ok warnings := by
    intro i hi
    cases Nat.lt_one_iff.mp hi
    exact ⟨_, rfl⟩
  obtain ⟨_, _, hwarnings⟩ := hdelivered.eq_of_accepted haccepted
  refine ⟨executed, c, f, hexecute, hget, ?_, hwarnings.trans rfl⟩
  rw [hnumber]
  rfl

end DataQuery

end GridClient
