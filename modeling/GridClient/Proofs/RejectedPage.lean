import GridClient.Proofs.Accepting
import GridClient.Proofs.CursorTrips
import GridClient.Proofs.ResultSet

/-!
Pages that a cursor rejects. A page whose first row cannot be entered fails the fetch that asked for
it and changes nothing else. The next fetch asks again, and since the node goes on behind the page
that it has sent, the rows that come then take the numbers of those that were lost.
-/
namespace GridClient

/-! ### What is rejected -/

/-- The bytes begin with the header of a row. -/
def BeginsRow (bytes : Bytes) : Prop :=
  ∃ n rest, n < 0x80000000 ∧ bytes = LittleEndian.encode 4 n ++ rest

/-- The page does not begin with the header of a row, though it announces rows or has bytes: there
are none, too few of them, or the column count is negative. -/
def ResultPage.Unusable (page : ResultPage) : Prop :=
  ¬ BeginsRow page.data ∧ (0 < page.rowCount.toInt ∨ page.data ≠ [])

theorem BeginsRow.ne_nil {bytes : Bytes} (h : BeginsRow bytes) : bytes ≠ [] := by
  obtain ⟨n, rest, _, rfl⟩ := h
  have hlen := LittleEndian.length_encode 4 n
  intro hnil
  rw [(List.append_eq_nil_iff.mp hnil).1] at hlen
  cases hlen

theorem Row.ofPage_of_beginsRow {bytes : Bytes} (h : BeginsRow bytes) :
    ∃ row, Row.ofPage bytes = .ok row := by
  have hne : bytes.isEmpty = false := by simpa using h.ne_nil
  obtain ⟨n, rest, hn, rfl⟩ := h
  have henter : Row.enter ⟨0, 0, 0, .ofBytes (LittleEndian.encode 4 n ++ rest)⟩ = _ :=
    Row.enter_of_rest hn rfl
  rw [ofPage, hne]
  simp only [henter]
  exact ⟨_, rfl⟩

theorem Row.enter_of_not_beginsRow {row : Row} (h : ¬ BeginsRow row.reader.rest) :
    row.enter = .error .invalidPacket row := by
  unfold enter
  split
  · rename_i n reader hlength
    obtain ⟨hrest, hn⟩ := Decoder.rest_of_length hlength
    exact absurd ⟨n, reader.rest, hn, hrest⟩ h
  · rfl

theorem Row.ofPage_of_not_beginsRow {bytes : Bytes} (hne : bytes ≠ []) (h : ¬ BeginsRow bytes) :
    Row.ofPage bytes = .error .invalidPacket := by
  have hempty : bytes.isEmpty = false := by simpa using hne
  have henter : Row.enter ⟨0, 0, 0, .ofBytes bytes⟩ = _ := Row.enter_of_not_beginsRow h
  rw [ofPage, hempty]
  simp only [henter]
  rfl

namespace Cursor

variable {cursor : Cursor} {page : ResultPage}

theorem takePage_of_unusable (h : page.Unusable) :
    cursor.takePage page = .error .invalidPacket := by
  obtain ⟨hbegins, hsome⟩ := h
  rw [takePage]
  by_cases hdata : page.data = []
  · have hcount : 0 < page.rowCount.toInt := hsome.resolve_right fun hne => hne hdata
    rw [if_pos ⟨hcount, List.isEmpty_iff.mpr hdata⟩]
  · have hnot : ¬ (0 < page.rowCount.toInt ∧ page.data.isEmpty) :=
      fun h => hdata (List.isEmpty_iff.mp h.2)
    rw [if_neg hnot, Row.ofPage_of_not_beginsRow hdata hbegins]

theorem takePage_of_not_unusable (h : ¬ page.Unusable) :
    ∃ cursor', cursor.takePage page = .ok cursor' := by
  rw [takePage]
  by_cases hbegins : BeginsRow page.data
  · have hnot : ¬ (0 < page.rowCount.toInt ∧ page.data.isEmpty) :=
      fun h => hbegins.ne_nil (List.isEmpty_iff.mp h.2)
    obtain ⟨row, hrow⟩ := Row.ofPage_of_beginsRow hbegins
    rw [if_neg hnot, hrow]
    exact ⟨_, rfl⟩
  · by_cases hdata : page.data = []
    · have hnot : ¬ (0 < page.rowCount.toInt ∧ page.data.isEmpty) :=
        fun hcount => h ⟨hbegins, .inl hcount.1⟩
      rw [if_neg hnot, hdata]
      exact ⟨_, rfl⟩
    · exact absurd ⟨hbegins, .inr hdata⟩ h

/-- Just the unusable pages are rejected. -/
theorem takePage_rejects_iff :
    (∃ e, cursor.takePage page = .error e) ↔ page.Unusable := by
  constructor
  · rintro ⟨e, he⟩
    by_cases h : page.Unusable
    · exact h
    · obtain ⟨cursor', hok⟩ := takePage_of_not_unusable h
      cases he.symm.trans hok
  · exact fun h => ⟨.invalidPacket, takePage_of_unusable h⟩

theorem hasNext_of_needsPage (h : cursor.needsPage = true) : cursor.hasNext = true := by
  rw [needsPage, Bool.or_eq_true, Bool.and_eq_true] at h
  rw [hasNext, Bool.or_eq_true, Bool.or_eq_true]
  exact h.elim (fun hnone => .inl (.inl hnone)) fun hspent => .inr hspent.2

variable {ν : Type} [Network ν] {c c' : Connection ν} {last : Cursor}

/-- The node answers the cursor's next requests with pages of its own, perhaps some without rows
first, and then with one that is unusable. The cursor then still is the one that asked for it. -/
inductive Rejects : Cursor → Connection ν → Cursor → Connection ν → Prop where
  | unusable {cursor : Cursor} {c c' : Connection ν} {page : ResultPage}
    (needs : cursor.needsPage = true)
    (exchanged : c.exchange (Request.fetch cursor.id c.options.pageSize).write
      Decoder.resultPage.decode = (.ok page, c'))
    (own : page.id = cursor.id) (unusable : page.Unusable) : Rejects cursor c cursor c'
  | passed {cursor next last : Cursor} {c c₁ c' : Connection ν} {page : ResultPage}
    (needs : cursor.needsPage = true)
    (exchanged : c.exchange (Request.fetch cursor.id c.options.pageSize).write
      Decoder.resultPage.decode = (.ok page, c₁))
    (own : page.id = cursor.id) (taken : cursor.takePage page = .ok next)
    (more : next.hasNext = true) (rest : Rejects next c₁ last c') : Rejects cursor c last c'

theorem loadPage_of_unusable (hneed : cursor.needsPage = true)
    (hexchange : c.exchange (Request.fetch cursor.id c.options.pageSize).write
      Decoder.resultPage.decode = (.ok page, c'))
    (hid : page.id = cursor.id) (h : page.Unusable) :
    cursor.loadPage c = (.error .invalidPacket, cursor, c') := by
  rw [loadPage, if_pos hneed]
  split
  · rename_i e c'' h
    cases hexchange.symm.trans h
  · rename_i page c'' h
    cases hexchange.symm.trans h
    simp only [hid, takePage_of_unusable ‹_›, ne_eq, not_true_eq_false, if_false]

theorem Rejects.loadPage (h : cursor.Rejects c last c') :
    cursor.loadPage c = (.error .invalidPacket, last, c') := by
  induction h with
  | unusable needs exchanged own unusable =>
    exact loadPage_of_unusable needs exchanged own unusable
  | passed needs exchanged own taken more rest ih =>
    rw [loadPage_of_taken needs exchanged own taken, if_pos more, ih]

/-- The cursor that is left asks for a page under the same id. -/
theorem Rejects.asks (h : cursor.Rejects c last c') :
    last.id = cursor.id ∧ cursor.needsPage = true ∧ last.needsPage = true := by
  induction h with
  | unusable needs => exact ⟨rfl, needs, needs⟩
  | passed needs _ _ taken _ rest ih => exact ⟨ih.1.trans (id_of_takePage taken), needs, ih.2.2⟩

end Cursor

namespace DataQuery

variable {ν : Type} [Network ν] {q : DataQuery} {cursor cursor' : Cursor} {c c' : Connection ν}

theorem fetch_of_rejects (hcursor : q.cursor = some cursor) (hstalled : q.stalled = none)
    (h : cursor.Rejects c cursor' c') (columns : Bindings DataBuffer) :
    q.fetch c columns =
      ⟨.error .invalidPacket, { q with cursor := some cursor' }, c', columns, []⟩ := by
  have hnext := Cursor.hasNext_of_needsPage h.asks.2.1
  simp only [fetch, hcursor, hstalled, if_pos hnext, h.loadPage]

/-- A fetch that gets an unusable page fails, and the next one asks for another. If the node goes on
to serve the cursor, its rows are delivered as if nothing had been lost, each with the number that
follows the last one. -/
theorem rejected_page_passed_over (hcursor : q.cursor = some cursor) (hstalled : q.stalled = none)
    (h : cursor.Rejects c cursor' c') :
    let failed : DataQuery := { q with cursor := some cursor' }
    (∀ columns, q.fetch c columns = ⟨.error .invalidPacket, failed, c', columns, []⟩) ∧
      failed.dataAvailable = true ∧ cursor'.needsPage = true ∧
      ∀ pages : List (List (List Cell)), ServesPages cursor.id c' pages → pages ≠ [] →
        Countable pages → ∀ (calls : List (Bindings DataBuffer)) (n : Nat)
          (before : Bindings DataBuffer), calls[n]? = some before →
          ∃ f, (failed.fetches c' calls)[n]? = some f ∧
            f.Enters (q.rowNumber + Int32.ofNat (n + 1)) pages.flatten[n]? before := by
  obtain ⟨hid, hneed, hneed'⟩ := h.asks
  have hnext := Cursor.hasNext_of_needsPage hneed'
  refine ⟨fetch_of_rejects hcursor hstalled h, ?_, hneed', ?_⟩
  · simp only [dataAvailable, hstalled, Option.isNone_none, Option.any_some, hnext, Bool.and_true]
  · intro pages hserve hne hcount calls n before hn
    -- Rows are counted from the number at hand, whatever pages it came from.
    have hload := Cursor.loaded_of_served hid hne hcount hneed' hserve
    have hnumber : q.rowNumber = Int32.ofNat q.rowNumber.toBitVec.toNat :=
      (Int32.ofNat_bitVecToNat _).symm
    obtain ⟨f, hget, henters⟩ := fetches_of_takes (c := c')
      (takes_of_loaded (q := { q with cursor := some cursor' }) rfl hstalled hnext hnumber hload)
      calls hn
    rw [Nat.add_assoc, Int32.ofNat_add, ← hnumber] at henters
    exact ⟨f, hget, henters⟩

/-- A page that announces a row and has no bytes, and a page with a row behind it. -/
theorem rejected_page_passed_over_dataless :
    let eight : Cell := ⟨.int 8, by decide, _, rfl⟩
    let lost : ResultPage := ⟨5, false, 1, []⟩
    let peer : ScriptedPeer :=
      ⟨none, .message lost.encode :: ScriptedPeer.pageScript 5 [[[eight]]], [], false, [], []⟩
    let c : Connection ScriptedPeer := { channel := ⟨peer, []⟩, isOpen := true }
    let q : DataQuery := { sql := "", cursor := some (Cursor.opened 5) }
    ∃ cursor' c', q.cursor = some (Cursor.opened 5) ∧ q.stalled = none ∧
      (Cursor.opened 5).Rejects c cursor' c' ∧
      (q.fetch c {}).result = .error .invalidPacket ∧
      ∃ f, (({ q with cursor := some cursor' } : DataQuery).fetches c' [{}])[0]? = some f ∧
        f.Enters 1 (some [eight]) {} := by
  intro eight lost peer c q
  obtain ⟨_, c', hreq, hans, hopen, hpeer⟩ :=
    ScriptedPeer.answers_page (c := c) rfl rfl (by decide) 5
  have hunusable : lost.Unusable := ⟨fun h => h.ne_nil rfl, .inl (by decide)⟩
  have hrejects : (Cursor.opened 5).Rejects c (Cursor.opened 5) c' :=
    .unusable rfl (Cursor.exchange_of_page hreq hans (by decide)) rfl hunusable
  have hserve : ServesPages 5 c' [[[eight]]] := ScriptedPeer.servesPages hopen hpeer (by decide)
  have hcount : Countable [[[eight]]] := by
    intro rows hrows
    cases List.mem_singleton.mp hrows
    exact ⟨by decide, by decide⟩
  obtain ⟨hfails, _, _, hlater⟩ := rejected_page_passed_over (q := q) rfl rfl hrejects
  refine ⟨_, _, rfl, rfl, hrejects, congrArg Fetched.result (hfails {}), ?_⟩
  exact hlater _ hserve (List.cons_ne_nil _ _) hcount [{}] 0 {} rfl

/-- Three pages of one row each, the second of which has lost its bytes: the fetch that asked for it
fails, and the next one delivers the third row as the second. -/
theorem later_row_follows_lost_page :
    let opened := [0] ++ encodeInt64 5 ++ encodeInt32 0
    let first : ResultPage := ⟨5, false, 1, [1, 0, 0, 0, 3, 7, 0, 0, 0]⟩
    let lost : ResultPage := ⟨5, false, 1, []⟩
    let later : ResultPage := ⟨5, true, 1, [1, 0, 0, 0, 3, 8, 0, 0, 0]⟩
    let peer : ScriptedPeer := ⟨none, [.message opened, .message first.encode,
      .message lost.encode, .message later.encode], [], false, [], []⟩
    let c : Connection ScriptedPeer := { channel := ⟨peer, []⟩, isOpen := true }
    ∃ executed c₁ f₁ f₂ f₃, ({ sql := "" } : DataQuery).execute {} c =
        (.ok .success, executed, c₁) ∧
      executed.fetches c₁ [{}, {}, {}] = [f₁, f₂, f₃] ∧
      (f₁.result = .ok .success ∧ f₁.query.rowNumber = 1) ∧
      (∃ cursor cursor', f₁.query.cursor = some cursor ∧
        cursor.Rejects f₁.connection cursor' f₂.connection ∧ f₂.result = .error .invalidPacket) ∧
      f₃.result = .ok .success ∧ f₃.query.rowNumber = 2 := by
  intro opened first lost later peer c
  let request : Bytes := [1, 0, 9, 0, 0, 0, 0, 0, 4, 0, 0, 0, 0, 0, 0]
  let c₁ : Connection ScriptedPeer := { c with
    channel := ⟨⟨none, [.message first.encode, .message lost.encode, .message later.encode],
      [request], false, [], []⟩, opened⟩
    outbox := request }
  have hexecute : (Request.execute "" ({} : Options).distributedJoins ({} : Options).pageSize
      []).encode = .ok request := rfl
  have hopens : DataQuery.Opens { sql := "" } {} c ⟨5, []⟩ c₁ :=
    ⟨[], request, opened, rfl, hexecute,
      ScriptedPeer.answers rfl rfl (List.cons_ne_nil _ _) (by decide) (by decide), rfl⟩
  obtain ⟨_, c₂, hreq₁, hans₁, hopen₂, hpeer₂⟩ :=
    ScriptedPeer.answers_page (c := c₁) rfl rfl (by decide) 5
  obtain ⟨_, c₃, hreq₂, hans₂, hopen₃, hpeer₃⟩ :=
    ScriptedPeer.answers_page hopen₂ hpeer₂ (by decide) 5
  obtain ⟨_, c₄, hreq₃, hans₃, _⟩ := ScriptedPeer.answers_page hopen₃ hpeer₃ (by decide) 5
  let q : DataQuery := ⟨"", [], some (Cursor.opened 5), 0, none⟩
  let spent : Cursor := ⟨5, some ⟨4, 1, 1, ⟨9, []⟩⟩, 1, 1, false⟩
  let q₁ : DataQuery := { q with cursor := some spent, rowNumber := 1 }
  have hload₁ : (Cursor.opened 5).loadPage c₁ =
      (.ok true, ⟨5, some ⟨4, 1, 0, ⟨4, [3, 7, 0, 0, 0]⟩⟩, 1, 0, false⟩, c₂) :=
    Cursor.loadPage_of_first rfl (Cursor.exchange_of_page hreq₁ hans₁ (by decide)) rfl rfl rfl rfl
  have hfetch₁ : q.fetch c₁ {} = ⟨.ok .success, q₁, c₂, {}, []⟩ := by
    rw [fetch_of_loadPage rfl rfl rfl hload₁]
    rfl
  have hrejects : spent.Rejects c₂ spent c₃ :=
    .unusable rfl (Cursor.exchange_of_page hreq₂ hans₂ (by decide)) rfl
      ⟨fun h => h.ne_nil rfl, .inl (by decide)⟩
  have hfetch₂ : q₁.fetch c₂ {} = ⟨.error .invalidPacket, q₁, c₃, {}, []⟩ :=
    fetch_of_rejects rfl rfl hrejects {}
  have hload₃ : spent.loadPage c₃ =
      (.ok true, ⟨5, some ⟨4, 1, 0, ⟨4, [3, 8, 0, 0, 0]⟩⟩, 1, 0, true⟩, c₄) :=
    Cursor.loadPage_of_first rfl (Cursor.exchange_of_page hreq₃ hans₃ (by decide)) rfl rfl rfl rfl
  have hfetch₃ : q₁.fetch c₃ {} = ⟨.ok .success,
      { q with
        cursor := some ⟨5, some ⟨4, 1, 1, ⟨9, []⟩⟩, 1, 1, true⟩
        rowNumber := 2 }, c₄, {}, []⟩ := by
    rw [fetch_of_loadPage rfl rfl rfl hload₃]
    rfl
  have hfetches : q.fetches c₁ [{}, {}, {}] = [q.fetch c₁ {}, q₁.fetch c₂ {}, q₁.fetch c₃ {}] := by
    simp only [fetches, hfetch₁, hfetch₂]
  refine ⟨q, c₁, _, _, _, run_of_opens hopens, hfetches, ?_, ⟨spent, spent, ?_⟩, ?_⟩
  · rw [hfetch₁]
    exact ⟨rfl, rfl⟩
  · rw [hfetch₁, hfetch₂]
    exact ⟨rfl, hrejects, rfl⟩
  · rw [hfetch₃]
    exact ⟨rfl, rfl⟩

end DataQuery

end GridClient
