import GridClient.Proofs.Answer
import GridClient.Proofs.RoundTrip

/-!
Exchanges in lockstep: the answers come in the order of the requests, one to each of those that were
built. A request that could not be built and an answer that could not be decoded change nothing
about this, and a failure of the stream is the last thing that happens on it.
-/
namespace GridClient

/-! ### Frames one after another -/

namespace Frame

/-- Messages, one after another. -/
def encodeAll (payloads : List Bytes) : Bytes := payloads.flatMap encode

theorem length_of_decode? {bytes payload rest : Bytes} (h : decode? bytes = some (payload, rest)) :
    rest.length < bytes.length := by
  simp only [decode?, Option.bind_eq_bind, Option.bind_eq_some_iff] at h
  obtain ⟨⟨header, more⟩, hheader, size, _, hpayload⟩ := h
  obtain ⟨rfl, hlen⟩ := Bytes.append_of_splitFirst? hheader
  obtain ⟨rfl, _⟩ := Bytes.append_of_splitFirst? hpayload
  simp only [headerSize] at hlen
  simp only [List.length_append]
  omega

/-- The payloads of all whole messages that some bytes begin with. -/
def splitAll (bytes : Bytes) : List Bytes :=
  match _h : decode? bytes with
  | some (payload, rest) => payload :: splitAll rest
  | none => []
termination_by bytes.length
decreasing_by exact length_of_decode? _h

theorem splitAll_encodeAll_append {payloads : List Bytes} (rest : Bytes)
    (h : ∀ payload ∈ payloads, payload.length < 0x80000000) :
    splitAll (encodeAll payloads ++ rest) = payloads ++ splitAll rest := by
  induction payloads with
  | nil => rfl
  | cons payload payloads ih =>
    have hd := decode?_encode_append payload (encodeAll payloads ++ rest) (h _ List.mem_cons_self)
    rw [encodeAll, List.flatMap_cons, List.append_assoc, splitAll]
    split
    · rename_i heq
      cases hd.symm.trans heq
      exact congrArg _ (ih fun payload hp => h payload (List.mem_cons_of_mem _ hp))
    · rename_i heq
      cases hd.symm.trans heq

/-- What some messages begin is split into them first, whatever stands behind. -/
theorem prefix_splitAll {payloads : List Bytes} {part stream : Bytes}
    (h : ∀ payload ∈ payloads, payload.length < 0x80000000)
    (hbegins : encodeAll payloads ++ part <+: stream) : payloads <+: splitAll stream := by
  obtain ⟨rest, rfl⟩ := hbegins
  rw [List.append_assoc, splitAll_encodeAll_append _ h]
  exact List.prefix_append _ _

end Frame

/-! ### What passed in each direction -/

namespace Transfer

/-- The byte of a transfer to the peer. -/
def sentByte? : Transfer → Option UInt8
  | sent byte => some byte
  | got _ => none

/-- The byte of a transfer from the peer. -/
def gotByte? : Transfer → Option UInt8
  | sent _ => none
  | got byte => some byte

/-- All that was sent. -/
def sentBytes (transfers : List Transfer) : Bytes := transfers.filterMap sentByte?

/-- All that was got. -/
def gotBytes (transfers : List Transfer) : Bytes := transfers.filterMap gotByte?

@[simp] theorem sentBytes_append (first second : List Transfer) :
    sentBytes (first ++ second) = sentBytes first ++ sentBytes second :=
  List.filterMap_append

@[simp] theorem gotBytes_append (first second : List Transfer) :
    gotBytes (first ++ second) = gotBytes first ++ gotBytes second :=
  List.filterMap_append

@[simp] theorem sentBytes_sent (bytes : Bytes) : sentBytes (bytes.map sent) = bytes := by
  rw [sentBytes, List.filterMap_map]
  exact List.filterMap_some

@[simp] theorem sentBytes_got (bytes : Bytes) : sentBytes (bytes.map got) = [] := by
  rw [sentBytes, List.filterMap_map, List.filterMap_eq_nil_iff]
  intro byte _
  rfl

@[simp] theorem gotBytes_sent (bytes : Bytes) : gotBytes (bytes.map sent) = [] := by
  rw [gotBytes, List.filterMap_map, List.filterMap_eq_nil_iff]
  intro byte _
  rfl

@[simp] theorem gotBytes_got (bytes : Bytes) : gotBytes (bytes.map got) = bytes := by
  rw [gotBytes, List.filterMap_map]
  exact List.filterMap_some

/-- Requests with an answer to each, for as long as there are answers. -/
def roundTrips (requests answers : List Bytes) : List Transfer :=
  (requests.zip answers).flatMap fun (request, answer) => Frame.sent request ++ Frame.got answer

theorem roundTrips_cons (request answer : Bytes) (requests answers : List Bytes) :
    roundTrips (request :: requests) (answer :: answers) =
      Frame.sent request ++ Frame.got answer ++ roundTrips requests answers :=
  rfl

theorem sentBytes_roundTrips (requests answers : List Bytes) :
    sentBytes (roundTrips requests answers) =
      Frame.encodeAll (requests.take answers.length) := by
  induction requests generalizing answers with
  | nil => rw [List.take_nil]; rfl
  | cons request requests ih =>
    cases answers with
    | nil => rfl
    | cons answer answers =>
      rw [roundTrips_cons, sentBytes_append, sentBytes_append, Frame.sent, Frame.got,
        sentBytes_sent, sentBytes_got, List.append_nil, ih]
      rfl

theorem gotBytes_roundTrips {requests answers : List Bytes}
    (h : answers.length ≤ requests.length) :
    gotBytes (roundTrips requests answers) = Frame.encodeAll answers := by
  induction requests generalizing answers with
  | nil =>
    cases List.eq_nil_of_length_eq_zero (Nat.le_zero.mp h)
    rfl
  | cons request requests ih =>
    cases answers with
    | nil => rfl
    | cons answer answers =>
      rw [roundTrips_cons, gotBytes_append, gotBytes_append, Frame.sent, Frame.got, gotBytes_sent,
        gotBytes_got, List.nil_append, ih (Nat.le_of_succ_le_succ h)]
      rfl

/-- Behind the round trips stands what passed of the one that broke off. -/
theorem sentBytes_passed (requests answers : List Bytes) (cut part : Bytes) :
    sentBytes (roundTrips requests answers ++ (cut.map sent ++ part.map got)) =
      Frame.encodeAll (requests.take answers.length) ++ cut := by
  rw [sentBytes_append, sentBytes_roundTrips, sentBytes_append, sentBytes_sent, sentBytes_got,
    List.append_nil]

theorem gotBytes_passed {requests answers : List Bytes} (cut part : Bytes)
    (h : answers.length ≤ requests.length) :
    gotBytes (roundTrips requests answers ++ (cut.map sent ++ part.map got)) =
      Frame.encodeAll answers ++ part := by
  rw [gotBytes_append, gotBytes_roundTrips h, gotBytes_append, gotBytes_sent, gotBytes_got,
    List.nil_append]

end Transfer

/-! ### Calls -/

/-- What an exchange is asked to do. -/
structure Call (α : Type) where
  encode : Encoder
  decode : Bytes → Except Error α

namespace Call

open Transfer

variable {α : Type}

/-- The requests that can be built, in the order of the calls. -/
def requests (calls : List (Call α)) : List Bytes :=
  calls.filterMap fun call =>
    match call.encode [] with
    | (.ok (), request) => some request
    | (.error _, _) => none

/-- The results of calls that get these answers, one to each request that can be built. When the
answers have run out the stream fails, and there is no connection any more. -/
def results (failure : Error) : List (Call α) → List Bytes → List (Except Error α)
  | [], _ => []
  | call :: calls, answers =>
    match call.encode [], answers with
    | (.error e, _), answers => .error e :: results failure calls answers
    | (.ok (), _), answer :: answers => call.decode answer :: results failure calls answers
    | (.ok (), _), [] => .error failure :: calls.map fun _ => .error .notConnected

variable {call : Call α} {calls : List (Call α)} {outbox request : Bytes} {e : Error}

theorem requests_of_unbuilt (h : call.encode [] = (.error e, outbox)) :
    requests (call :: calls) = requests calls := by
  simp only [requests, List.filterMap_cons, h]

theorem requests_of_built (h : call.encode [] = (.ok (), request)) :
    requests (call :: calls) = request :: requests calls := by
  simp only [requests, List.filterMap_cons, h]

end Call

namespace Connection

open Transfer

variable {ν : Type} [Network ν] {α : Type}

/-- A round trip over an open stream that fails it: there is a request, and it cannot be sent, or
no answer is received. -/
def Breaks (c : Connection ν) (encode : Encoder) : Prop :=
  c.isOpen = true ∧ ∃ request, encode [] = (.ok (), request) ∧
    ((c.channel.send request).1 ≠ .ok () ∨ (c.channel.send request).2.receive.1 ≠ .ok ())

theorem isOpen_exchange_iff (c : Connection ν) (call : Call α) :
    (c.exchange call.encode call.decode).2.isOpen = true ↔
      c.isOpen = true ∧ ¬ c.Breaks call.encode := by
  rw [exchange]
  by_cases hopen : c.isOpen = true
  · obtain ⟨⟨built, request⟩, he⟩ : ∃ r, call.encode [] = r := ⟨_, rfl⟩
    rw [if_pos hopen, he]
    cases built with
    | error e =>
      refine iff_of_true hopen ⟨hopen, ?_⟩
      rintro ⟨_, _, hbuilt, _⟩
      cases he.symm.trans hbuilt
    | ok _ =>
      obtain ⟨⟨sending, sent⟩, hs⟩ : ∃ r, c.channel.send request = r := ⟨_, rfl⟩
      simp only [hs]
      cases sending with
      | error e =>
        have hfails : (c.channel.send request).1 ≠ .ok () := by simp [hs]
        exact iff_of_false Bool.false_ne_true fun hlasts =>
          hlasts.2 ⟨hopen, request, he, .inl hfails⟩
      | ok _ =>
        obtain ⟨⟨receiving, received⟩, hr⟩ : ∃ r, sent.receive = r := ⟨_, rfl⟩
        simp only [hr]
        cases receiving with
        | error e =>
          have hfails : (c.channel.send request).2.receive.1 ≠ .ok () := by simp [hs, hr]
          exact iff_of_false Bool.false_ne_true fun hlasts =>
            hlasts.2 ⟨hopen, request, he, .inr hfails⟩
        | ok _ =>
          refine iff_of_true hopen ⟨hopen, ?_⟩
          rintro ⟨_, request', hbuilt, hfails⟩
          cases he.symm.trans hbuilt
          rw [hs, hr] at hfails
          exact hfails.elim (fun h => h rfl) fun h => h rfl
  · rw [if_neg hopen]
    exact iff_of_false hopen fun h => hopen h.1

/-- Makes exchanges, one after another. -/
def exchangeAll : Connection ν → List (Call α) → List (Except Error α) × Connection ν
  | c, [] => ([], c)
  | c, call :: calls =>
    let (result, c) := c.exchange call.encode call.decode
    let (results, c) := c.exchangeAll calls
    (result :: results, c)

/-- No call of these fails the stream. -/
def Unbroken : Connection ν → List (Call α) → Prop
  | _, [] => True
  | c, call :: calls =>
    ¬ c.Breaks call.encode ∧ (c.exchange call.encode call.decode).2.Unbroken calls

/-- How calls over an open connection end, behind so many answers. All that could be built have been
answered, or the stream has failed the next request and was given up. -/
inductive Ending (c : Connection ν) (calls : List (Call α)) (answered : Nat) :
    Bool → Error → Bytes → Bytes → Prop where
  | running {failure : Error} (all : answered = (Call.requests calls).length) :
    Ending c calls answered true failure [] []
  | failed {earlier later : List (Call α)} {call : Call α} {failure : Error}
    {request cut part : Bytes} (split : calls = earlier ++ call :: later)
    (answers : answered = (Call.requests earlier).length)
    (built : call.encode [] = (.ok (), request))
    (reached : (c.exchangeAll earlier).2.isOpen = true)
    (fails : (c.exchangeAll earlier).2.channel.Fails request failure cut part)
    (off : Frame.BrokenOff request cut part) : Ending c calls answered false failure cut part

/-- Calls that got these answers, with their results and everything that passed over the stream. -/
structure Lockstep (c : Connection ν) (calls : List (Call α)) (answers : List Bytes)
    (results : List (Except Error α)) (transfers : List Transfer) (isOpen : Bool) : Prop where
  passed : ∃ failure cut part, results = Call.results failure calls answers ∧
    c.Ending calls answers.length isOpen failure cut part ∧
    transfers = roundTrips (Call.requests calls) answers ++ (cut.map .sent ++ part.map .got)
  short : ∀ answer ∈ answers, answer.length < 0x80000000

theorem exchangeAll_plain (c : Connection (Recorded ν)) (calls : List (Call α)) :
    (c.exchangeAll calls).1 = (c.plain.exchangeAll calls).1 ∧
      (c.exchangeAll calls).2.plain = (c.plain.exchangeAll calls).2 := by
  induction calls generalizing c with
  | nil => exact ⟨rfl, rfl⟩
  | cons call calls ih =>
    obtain ⟨_, hresult, hplain⟩ := exchange_recorded call.encode call.decode c
    obtain ⟨hresults, hlast⟩ := ih (c.exchange call.encode call.decode).2
    rw [hplain] at hresults hlast
    simp only [exchangeAll, hresult, hresults, hlast, and_self]

/-- Without a stream no call does anything. -/
theorem exchangeAll_closed {c : Connection ν} (h : c.isOpen = false) (calls : List (Call α)) :
    c.exchangeAll calls = (calls.map fun _ => .error .notConnected, c) := by
  induction calls with
  | nil => rfl
  | cons call calls ih =>
    have he : c.exchange call.encode call.decode = (.error .notConnected, c) := by
      rw [exchange, h]
      rfl
    simp only [exchangeAll, he, ih, List.map_cons]

/-- Calls leave a connection open exactly when none of them fails the stream. -/
theorem isOpen_exchangeAll_iff {c : Connection ν} (hopen : c.isOpen = true)
    (calls : List (Call α)) : (c.exchangeAll calls).2.isOpen = true ↔ c.Unbroken calls := by
  induction calls generalizing c with
  | nil => exact iff_of_true hopen trivial
  | cons call calls ih =>
    have hstep := c.isOpen_exchange_iff call
    show (((c.exchange call.encode call.decode).2).exchangeAll calls).2.isOpen = true ↔ _
    rw [Unbroken]
    by_cases hlasts : c.Breaks call.encode
    · have hclosed : (c.exchange call.encode call.decode).2.isOpen = false := by
        simpa [hlasts] using hstep
      rw [exchangeAll_closed hclosed, hclosed]
      exact iff_of_false Bool.false_ne_true fun h => h.1 hlasts
    · rw [ih (hstep.mpr ⟨hopen, hlasts⟩), and_iff_right hlasts]

/-! ### One call more in front -/

section

variable {c c₁ : Connection ν} {call : Call α} {calls : List (Call α)} {answers : List Bytes}
  {count : Nat} {rest : List (Except Error α)} {transfers : List Transfer} {isOpen : Bool}
  {request answer outbox cut part : Bytes} {e failure : Error}

theorem Ending.cons {n : Nat} (h : c₁.Ending calls count isOpen failure cut part)
    (hc : (c.exchange call.encode call.decode).2 = c₁)
    (hn : ∀ calls, (Call.requests (call :: calls)).length = (Call.requests calls).length + n) :
    c.Ending (call :: calls) (count + n) isOpen failure cut part := by
  subst hc
  cases h with
  | running all => exact .running (by rw [hn, all])
  | @failed earlier later failing _ _ _ _ split answers built reached fails off =>
    have hsplit : call :: calls = (call :: earlier) ++ failing :: later :=
      congrArg (call :: ·) split
    exact .failed hsplit (by rw [hn, answers]) built reached fails off

theorem Ending.count_le (h : c.Ending calls count isOpen failure cut part) :
    count ≤ (Call.requests calls).length := by
  cases h with
  | running all => exact Nat.le_of_eq all
  | failed split answers built reached fails off =>
    rw [split, answers, Call.requests, Call.requests, List.filterMap_append, List.length_append]
    exact Nat.le_add_right _ _

theorem lockstep_nil (c : Connection ν) : c.Lockstep ([] : List (Call α)) [] [] [] true where
  passed := ⟨.notConnected, [], [], rfl, .running rfl, rfl⟩
  short := fun _ h => absurd h List.not_mem_nil

theorem Lockstep.unsent (h : c₁.Lockstep calls answers rest transfers isOpen)
    (hc : (c.exchange call.encode call.decode).2 = c₁)
    (he : call.encode [] = (.error e, outbox)) :
    c.Lockstep (call :: calls) answers (.error e :: rest) transfers isOpen := by
  obtain ⟨⟨failure, cut, part, rfl, hending, htransfers⟩, hshort⟩ := h
  have hsame (calls : List (Call α)) :
      (Call.requests (call :: calls)).length = (Call.requests calls).length + 0 := by
    rw [Call.requests_of_unbuilt he, Nat.add_zero]
  refine ⟨⟨failure, cut, part, ?_, hending.cons hc hsame, ?_⟩, hshort⟩
  · simp only [Call.results, he]
  · rwa [Call.requests_of_unbuilt he]

theorem Lockstep.answered (h : c₁.Lockstep calls answers rest transfers isOpen)
    (hc : (c.exchange call.encode call.decode).2 = c₁)
    (he : call.encode [] = (.ok (), request)) (hshort : answer.length < 0x80000000) :
    c.Lockstep (call :: calls) (answer :: answers) (call.decode answer :: rest)
      (Frame.sent request ++ Frame.got answer ++ transfers) isOpen := by
  obtain ⟨⟨failure, cut, part, rfl, hending, rfl⟩, hshorts⟩ := h
  have hmore (calls : List (Call α)) :
      (Call.requests (call :: calls)).length = (Call.requests calls).length + 1 := by
    rw [Call.requests_of_built he, List.length_cons]
  refine ⟨⟨failure, cut, part, ?_, hending.cons hc hmore, ?_⟩, ?_⟩
  · simp only [Call.results, he]
  · rw [Call.requests_of_built he, roundTrips_cons, List.append_assoc _ (roundTrips _ _)]
  · intro a ha
    rcases List.mem_cons.mp ha with rfl | ha
    · exact hshort
    · exact hshorts a ha

/-- The calls behind a failure find no connection, and nothing passes any more. -/
theorem lockstep_broken (hopen : c.isOpen = true) (he : call.encode [] = (.ok (), request))
    (hfails : c.channel.Fails request e cut part) (hoff : Frame.BrokenOff request cut part) :
    c.Lockstep (call :: calls) [] (.error e :: calls.map fun _ => .error .notConnected)
      (cut.map .sent ++ part.map .got) false := by
  refine ⟨⟨e, cut, part, ?_, ?_, ?_⟩, fun _ h => absurd h List.not_mem_nil⟩
  · simp only [Call.results, he]
  · have hsplit : call :: calls = [] ++ call :: calls := rfl
    exact .failed hsplit rfl he hopen hfails hoff
  · rw [roundTrips, List.zip_nil_right]
    rfl

end

/-! ### Any number of calls -/

/-- Any number of calls on an open connection, with what they add to the record. -/
theorem lockstep_exchangeAll {c : Connection (Recorded ν)} (hopen : c.isOpen = true)
    (calls : List (Call α)) :
    ∃ answers transfers, (c.exchangeAll calls).2.transcript = c.transcript ++ transfers ∧
      c.plain.Lockstep calls answers (c.exchangeAll calls).1 transfers
        (c.exchangeAll calls).2.isOpen := by
  induction calls generalizing c with
  | nil =>
    refine ⟨[], [], (List.append_nil _).symm, ?_⟩
    show c.plain.Lockstep [] [] [] [] c.isOpen
    rw [hopen]
    exact lockstep_nil c.plain
  | cons call calls ih =>
    obtain ⟨hexchanged, _, hplain⟩ := exchange_recorded call.encode call.decode c
    obtain ⟨⟨result, c₁⟩, hr⟩ : ∃ r, c.exchange call.encode call.decode = r := ⟨_, rfl⟩
    rw [hr] at hexchanged hplain
    simp only [exchangeAll, hr]
    cases hexchanged with
    | closed hclosed => cases hopen.symm.trans hclosed
    | @unsent _ outbox _ hunbuilt =>
      obtain ⟨answers, transfers, htranscript, hrest⟩ := ih (c := { c with outbox }) hopen
      exact ⟨answers, transfers, htranscript, hrest.unsent hplain.symm hunbuilt⟩
    | @answered request answer _ _ _ hbuilt hopen₁ _ hshort htranscript₁ =>
      obtain ⟨answers, transfers, htranscript, hrest⟩ := ih hopen₁
      refine ⟨answer :: answers, Frame.sent request ++ Frame.got answer ++ transfers, ?_,
        hrest.answered hplain.symm hbuilt hshort⟩
      rw [htranscript, htranscript₁, List.append_assoc]
    | @broken _ cut part _ _ _ hbuilt hclosed hfails hoff htranscript₁ =>
      refine ⟨[], cut.map .sent ++ part.map .got, ?_, ?_⟩
      · rw [exchangeAll_closed hclosed, htranscript₁]
      · rw [exchangeAll_closed hclosed, hclosed]
        exact lockstep_broken hopen hbuilt hfails hoff

/-- The answers over an open connection go in their order to the calls whose requests were built,
and nothing but those requests and answers passes. What ends this is a request that cannot be sent
or whose answer cannot be received: nothing passes behind it, and later calls find no connection. -/
theorem exchangeAll_in_lockstep (c : Connection ν) (hopen : c.isOpen = true)
    (calls : List (Call α)) :
    let (results, c') := c.recorded.exchangeAll calls
    (results, c'.plain) = c.exchangeAll calls ∧ (c'.isOpen = true ↔ c.Unbroken calls) ∧
      ∃ answers failure cut part, results = Call.results failure calls answers ∧
      c'.transcript = roundTrips (Call.requests calls) answers ++
        (cut.map .sent ++ part.map .got) ∧
      sentBytes c'.transcript =
        Frame.encodeAll ((Call.requests calls).take answers.length) ++ cut ∧
      gotBytes c'.transcript = Frame.encodeAll answers ++ part ∧
      (∀ stream, gotBytes c'.transcript <+: stream → answers <+: Frame.splitAll stream) ∧
      c.Ending calls answers.length c'.isOpen failure cut part ∧
      (c'.isOpen = false → ∀ later : List (Call α),
        c'.exchangeAll later = (later.map fun _ => .error .notConnected, c')) := by
  obtain ⟨hresults, hplain⟩ := exchangeAll_plain c.recorded calls
  obtain ⟨answers, transfers, htranscript, ⟨failure, cut, part, hlockstep, hending, rfl⟩,
    hshort⟩ := lockstep_exchangeAll (c := c.recorded) hopen calls
  have hlasts : (c.recorded.exchangeAll calls).2.isOpen = true ↔ c.Unbroken calls := by
    have hisOpen := isOpen_exchangeAll_iff hopen calls
    rwa [show (c.exchangeAll calls).2 = (c.recorded.exchangeAll calls).2.plain from
      hplain.symm] at hisOpen
  have hsent := (congrArg sentBytes htranscript).trans (sentBytes_passed _ answers cut part)
  have hgot := (congrArg gotBytes htranscript).trans (gotBytes_passed cut part hending.count_le)
  exact ⟨Prod.ext hresults hplain, hlasts, answers, failure, cut, part, hlockstep, htranscript,
    hsent, hgot, fun _ hbegins => Frame.prefix_splitAll hshort (hgot ▸ hbegins), hending,
    fun hclosed => exchangeAll_closed hclosed⟩

/-- A request that breaks off behind its first byte, and one that is built: only the second reaches
the peer, and the one answer that the peer has is the second call's. -/
theorem exchangeAll_in_lockstep_behind_unbuilt :
    let peer : ScriptedPeer := ⟨none, [.message [7]], [], false, [], []⟩
    let c : Connection ScriptedPeer := { channel := ⟨peer, []⟩, isOpen := true }
    let unbuilt : Call Bytes := ⟨fun buffer => (.error .invalidPacket, buffer ++ [1]), .ok⟩
    let built : Call Bytes := ⟨fun buffer => (.ok (), buffer ++ [2]), .ok⟩
    let c' := (c.recorded.exchangeAll [unbuilt, built]).2
    c.isOpen = true ∧ c'.isOpen = true ∧ ∃ answers failure, answers = [[7]] ∧
      (c.exchangeAll [unbuilt, built]).1 = Call.results failure [unbuilt, built] answers ∧
      (c.exchangeAll [unbuilt, built]).1 = [.error .invalidPacket, .ok [7]] ∧
      c'.transcript = roundTrips [[2]] answers := by
  intro peer c unbuilt built c'
  have hopen : c.isOpen = true := rfl
  have hunbuilt : c.exchange unbuilt.encode unbuilt.decode =
      (.error .invalidPacket, { c with outbox := [1] }) := rfl
  have hanswers : Answers { c with outbox := [1] } [2] [7] _ :=
    ScriptedPeer.answers hopen rfl (by decide) (by decide) (by decide)
  have hbuilt : exchange built.encode built.decode { c with outbox := [1] } = _ :=
    exchange_of_answers built.decode hanswers rfl
  have hlockstep := exchangeAll_in_lockstep c hopen [unbuilt, built]
  obtain ⟨⟨results, reached⟩, hr⟩ : ∃ r, c.recorded.exchangeAll [unbuilt, built] = r := ⟨_, rfl⟩
  have hreached : c' = reached := congrArg Prod.snd hr
  rw [hr] at hlockstep
  simp only [exchangeAll, hunbuilt, hbuilt] at hlockstep ⊢
  obtain ⟨hplain, _, answers, failure, cut, part, hresults, htranscript, _, _, _, hending, _⟩ :=
    hlockstep
  have hopen' : reached.isOpen = true := congrArg (·.2.isOpen) hplain
  have hanswered := (congrArg Prod.fst hplain).symm.trans hresults
  rw [hopen'] at hending
  cases hending with
  | running all =>
    have hanswer : answers = [[7]] := by
      cases answers with
      | nil => cases all
      | cons answer rest =>
        cases rest with
        | nil =>
          cases hanswered
          rfl
        | cons => cases all
    rw [hreached]
    refine ⟨hopen, hopen', answers, failure, hanswer, hanswered, rfl, ?_⟩
    exact htranscript.trans (List.append_nil _)

end Connection

end GridClient
