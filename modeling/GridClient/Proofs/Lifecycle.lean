import GridClient.Proofs.Lockstep
import GridClient.Proofs.Settling

/-!
When a connection is open. It is opened only by an attempt that succeeds in every part, and it stays
open until it is closed or its stream fails. An attempt that fails in any part leaves it as it was,
and tells the one cause.
-/
namespace GridClient.Connection

variable {ν : Type} [Network ν]

/-! ### Opening a stream -/

/-- An option that a socket takes. -/
def Takes (option : SocketOption) (n n' : ν) : Prop :=
  option.isZeroTimeout = false ∧ Network.configure option n = (.ok (), n')

/-- A connection that has no stream gets one: there is a cache to connect to, the host is reached,
and the stream takes its three options. -/
def Connects (c : Connection ν) (o : Options) (n : ν) : Prop :=
  c.isOpen = false ∧ o.cache ≠ "" ∧
    ∃ reached undelayed limited, Network.connect o.host o.port c.network = (.ok (), reached) ∧
      Takes (.noDelay o.tcpNoDelay) reached undelayed ∧
      Takes (.readTimeout o.readTimeout) undelayed limited ∧
      Takes (.writeTimeout o.writeTimeout) limited n

/-- Why an attempt to open a connection fails, with the state and the text of the cause, and what
the network is afterwards. A stream that does not take its options is given up. -/
inductive Refuses (c : Connection ν) (o : Options) : String → String → ν → Prop where
  | alreadyOpen (isOpen : c.isOpen = true) : Refuses c o "08002" "Already connected." c.network
  | noCache (isOpen : c.isOpen = false) (cache : o.cache = "") :
    Refuses c o "HY000" "Cache is not specified." c.network
  | unreachable {failure : TransportFailure} {n : ν} (isOpen : c.isOpen = false)
    (cache : o.cache ≠ "")
    (connect : Network.connect o.host o.port c.network = (.error failure, n)) :
    Refuses c o "08001" "Failed to establish connection with the host." n
  | unset {failure : TransportFailure} {reached n : ν} (isOpen : c.isOpen = false)
    (cache : o.cache ≠ "") (connect : Network.connect o.host o.port c.network = (.ok (), reached))
    (configure : Network.configureAll (socketOptions o) reached = (.error failure, n)) :
    Refuses c o "HY000" ("IO error: " ++ failure.message) (Network.disconnect n)

/-- Diagnostics that tell one cause, with the state and the text of it and what identifies the
connection. -/
structure TellsCause (o : Options) (code text : String) (d : Diagnostics) : Prop where
  result : d.result = .error
  records : ∃ record : StatusRecord, d.records = [record] ∧ record.state.code = code ∧
    record.message = text ∧ record.connection = o.cache ∧
      record.server = o.host ++ ":" ++ toString o.port.toNat

theorem configureAll_cons_eq_ok_iff {option : SocketOption} {options : List SocketOption}
    {n n' : ν} :
    Network.configureAll (option :: options) n = (.ok (), n') ↔
      ∃ taken, Takes option n taken ∧ Network.configureAll options taken = (.ok (), n') := by
  rw [Network.configureAll]
  by_cases hzero : option.isZeroTimeout = true
  · rw [if_pos hzero]
    constructor
    · intro h
      cases h
    · rintro ⟨_, ⟨hnonzero, _⟩, _⟩
      cases hzero.symm.trans hnonzero
  · rw [if_neg hzero]
    have hnonzero : option.isZeroTimeout = false := by simpa using hzero
    obtain ⟨⟨result, taken⟩, hr⟩ : ∃ r, Network.configure option n = r := ⟨_, rfl⟩
    rw [hr]
    constructor
    · intro h
      cases result with
      | error failure => cases h
      | ok _ => exact ⟨taken, ⟨hnonzero, hr⟩, h⟩
    · rintro ⟨_, ⟨_, htaken⟩, h⟩
      cases hr.symm.trans htaken
      exact h

/-- A stream takes all its options one after another. -/
theorem configureAll_socketOptions_iff {o : Options} {n n' : ν} :
    Network.configureAll (socketOptions o) n = (.ok (), n') ↔
      ∃ undelayed limited, Takes (.noDelay o.tcpNoDelay) n undelayed ∧
        Takes (.readTimeout o.readTimeout) undelayed limited ∧
        Takes (.writeTimeout o.writeTimeout) limited n' := by
  rw [socketOptions, configureAll_cons_eq_ok_iff]
  simp only [configureAll_cons_eq_ok_iff]
  constructor
  · rintro ⟨undelayed, h₁, limited, h₂, written, h₃, hend⟩
    cases hend
    exact ⟨undelayed, limited, h₁, h₂, h₃⟩
  · rintro ⟨undelayed, limited, h₁, h₂, h₃⟩
    exact ⟨undelayed, h₁, limited, h₂, n', h₃, rfl⟩

variable {c : Connection ν} {o : Options} {n : ν}

theorem Connects.openStream (h : c.Connects o n) :
    c.openStream o = (.ok .success, { c.withNetwork n with isOpen := true, options := o }) := by
  obtain ⟨hclosed, hcache, reached, undelayed, limited, hconnect, hoptions⟩ := h
  have hconfigure : Network.configureAll (socketOptions o) reached = (.ok (), n) :=
    configureAll_socketOptions_iff.mpr ⟨undelayed, limited, hoptions⟩
  have hnonempty : ¬ o.cache.isEmpty = true := by simpa using hcache
  rw [Connection.openStream, if_neg (by simp [hclosed]), if_neg hnonempty, hconnect]
  simp only [hconfigure]

/-- Where a connection is not opened there is a cause, and nothing but the network may change. -/
theorem exists_refusal (h : ¬ ∃ n, c.Connects o n) :
    ∃ code text e n, c.Refuses o code text n ∧ c.openStream o = (.error e, c.withNetwork n) ∧
      e.state.code = code ∧ e.recordText = text ∧
        StatusRecord.ofError e = { state := e.state, message := e.recordText } := by
  rw [openStream]
  by_cases hopen : c.isOpen = true
  · exact ⟨_, _, _, _, .alreadyOpen hopen, if_pos hopen, rfl, rfl, rfl⟩
  · have hclosed : c.isOpen = false := by simpa using hopen
    rw [if_neg hopen]
    by_cases hempty : o.cache.isEmpty = true
    · have hcache : o.cache = "" := by simpa using hempty
      exact ⟨_, _, _, _, .noCache hclosed hcache, if_pos hempty, rfl, rfl, rfl⟩
    · have hcache : o.cache ≠ "" := by simpa using hempty
      rw [if_neg hempty]
      obtain ⟨⟨result, reached⟩, hconnect⟩ : ∃ r, Network.connect o.host o.port c.network = r :=
        ⟨_, rfl⟩
      cases result with
      | error failure =>
        rw [hconnect]
        exact ⟨_, _, _, _, .unreachable hclosed hcache hconnect, rfl, rfl, rfl, rfl⟩
      | ok _ =>
        obtain ⟨⟨result, set⟩, hset⟩ : ∃ r, Network.configureAll (socketOptions o) reached = r :=
          ⟨_, rfl⟩
        rw [hconnect]
        simp only [hset]
        cases result with
        | error failure =>
          exact ⟨_, _, _, _, .unset hclosed hcache hconnect hset, rfl, rfl, rfl, rfl⟩
        | ok _ =>
          obtain ⟨undelayed, limited, hoptions⟩ := configureAll_socketOptions_iff.mp hset
          exact absurd ⟨set, hclosed, hcache, reached, undelayed, limited, hconnect, hoptions⟩ h

/-- What fails for one cause is told as that cause. -/
theorem tellsCause_complete {e : Error} {code text : String} (o : Options)
    (hcode : e.state.code = code) (htext : e.recordText = text)
    (hrecord : StatusRecord.ofError e = { state := e.state, message := e.recordText }) :
    TellsCause o code text (({} : Diagnostics).complete (.error e) o).2 := by
  refine ⟨rfl, (StatusRecord.ofError e).stamp o, rfl, ?_, ?_, rfl, rfl⟩
  · rw [hrecord]
    exact hcode
  · rw [hrecord]
    exact htext

theorem Connects.establish (h : c.Connects o n) :
    c.establish o =
      (.success, { c.withNetwork n with isOpen := true, options := o, diagnostics := {} }) := by
  rw [Connection.establish, h.openStream]
  rfl

theorem establish_of_refusal (h : ¬ ∃ n, c.Connects o n) :
    ∃ code text n d, c.Refuses o code text n ∧ TellsCause o code text d ∧
      c.establish o = (.error, { c.withNetwork n with diagnostics := d }) := by
  obtain ⟨code, text, e, n, hrefuses, heq, hcode, htext, hrecord⟩ := exists_refusal h
  refine ⟨code, text, n, _, hrefuses, tellsCause_complete o hcode htext hrecord, ?_⟩
  rw [establish, heq]
  rfl

theorem establish_eq_success_iff : (c.establish o).1 = .success ↔ ∃ n, c.Connects o n := by
  constructor
  · intro h
    by_cases hconnects : ∃ n, c.Connects o n
    · exact hconnects
    · obtain ⟨_, _, _, _, _, _, heq⟩ := establish_of_refusal hconnects
      rw [heq] at h
      cases h
  · rintro ⟨n, h⟩
    rw [h.establish]

/-! ### Closing a stream -/

theorem release_of_open (h : c.isOpen = true) :
    c.release = (.success, { c.drop with diagnostics := {} }) := by
  rw [release, closeStream, if_pos h]
  rfl

theorem release_of_closed (h : c.isOpen = false) :
    ∃ d, TellsCause c.options "08003" "Connection is not open." d ∧
      c.release = (.error, { c with diagnostics := d }) := by
  refine ⟨_, tellsCause_complete (e := .notConnected) c.options rfl rfl rfl, ?_⟩
  rw [release, closeStream, if_neg (by simp [h])]
  rfl

theorem isOpen_release (c : Connection ν) : c.release.2.isOpen = false := by
  by_cases hopen : c.isOpen = true
  · rw [release_of_open hopen]
    rfl
  · have hclosed : c.isOpen = false := by simpa using hopen
    obtain ⟨_, _, heq⟩ := release_of_closed hclosed
    rwa [heq]

/-! ### Runs of operations -/

/-- What is done with a connection: it is opened or closed, or there is a round trip over it. -/
inductive Operation : Type 1 where
  | establish (o : Options)
  | release
  | exchange {α : Type} (call : Call α)

def perform (c : Connection ν) : Operation → Connection ν
  | .establish o => (c.establish o).2
  | .release => c.release.2
  | .exchange call => (c.exchange call.encode call.decode).2

def performAll (c : Connection ν) (ops : List Operation) : Connection ν := ops.foldl perform c

/-- The operation is to close the connection, or a round trip that its stream fails. -/
def Ends (c : Connection ν) : Operation → Prop
  | .establish _ => False
  | .release => True
  | .exchange call => c.Breaks call.encode

/-- No operation of a run closes the connection or fails its stream. -/
def Lasts : Connection ν → List Operation → Prop
  | _, [] => True
  | c, op :: ops => ¬ c.Ends op ∧ (c.perform op).Lasts ops

/-- In a run the connection was opened, and since then it was not closed and its stream did not
fail. -/
def OpenedIn (c : Connection ν) (ops : List Operation) : Prop :=
  ∃ before o after, ops = before ++ .establish o :: after ∧
    ((c.performAll before).establish o).1 = .success ∧
    ((c.performAll before).perform (.establish o)).Lasts after

/-- One operation opens a connection or leaves an open one open. -/
theorem isOpen_perform_iff (op : Operation) :
    (c.perform op).isOpen = true ↔
      (∃ o, op = .establish o ∧ (c.establish o).1 = .success) ∨
        (c.isOpen = true ∧ ¬ c.Ends op) := by
  cases op with
  | establish o =>
    rw [perform]
    by_cases hconnects : ∃ n, c.Connects o n
    · obtain ⟨n, h⟩ := hconnects
      rw [h.establish]
      exact iff_of_true rfl (.inl ⟨o, rfl, by rw [h.establish]⟩)
    · obtain ⟨_, _, _, _, _, _, heq⟩ := establish_of_refusal hconnects
      rw [heq]
      constructor
      · intro hopen
        exact .inr ⟨hopen, not_false⟩
      · rintro (⟨o', ho, hsuccess⟩ | ⟨hopen, _⟩)
        · cases ho
          rw [heq] at hsuccess
          cases hsuccess
        · exact hopen
  | release =>
    rw [perform, isOpen_release]
    refine iff_of_false Bool.false_ne_true ?_
    rintro (⟨_, ho, _⟩ | ⟨_, hends⟩)
    · cases ho
    · exact hends trivial
  | exchange call =>
    rw [perform, c.isOpen_exchange_iff call]
    constructor
    · exact .inr
    · rintro (⟨_, ho, _⟩ | hlasts)
      · cases ho
      · exact hlasts

theorem openedIn_cons_iff (op : Operation) (ops : List Operation) :
    c.OpenedIn (op :: ops) ↔
      (∃ o, op = .establish o ∧ (c.establish o).1 = .success ∧ (c.perform op).Lasts ops) ∨
        (c.perform op).OpenedIn ops := by
  constructor
  · rintro ⟨before, o, after, hops, hsuccess, hlasts⟩
    cases before with
    | nil =>
      cases hops
      exact .inl ⟨o, rfl, hsuccess, hlasts⟩
    | cons first before =>
      cases hops
      exact .inr ⟨before, o, after, rfl, hsuccess, hlasts⟩
  · rintro (⟨o, rfl, hsuccess, hlasts⟩ | ⟨before, o, after, rfl, hsuccess, hlasts⟩)
    · exact ⟨[], o, ops, rfl, hsuccess, hlasts⟩
    · exact ⟨op :: before, o, after, rfl, hsuccess, hlasts⟩

/-- A connection is open when it was opened in the run, or before it, and has lasted since then. -/
theorem isOpen_performAll_iff (ops : List Operation) :
    (c.performAll ops).isOpen = true ↔ c.OpenedIn ops ∨ (c.isOpen = true ∧ c.Lasts ops) := by
  induction ops generalizing c with
  | nil =>
    have hnone : ¬ c.OpenedIn [] := by
      rintro ⟨before, o, after, hops, _⟩
      cases before <;> cases hops
    rw [or_iff_right hnone]
    exact (and_iff_left trivial).symm
  | cons op ops ih =>
    rw [openedIn_cons_iff, Lasts]
    have hrest := ih (c := c.perform op)
    rw [isOpen_perform_iff op] at hrest
    show ((c.perform op).performAll ops).isOpen = true ↔ _
    rw [hrest]
    constructor
    · rintro (hopened | ⟨⟨o, ho, hsuccess⟩ | ⟨hopen, hends⟩, hlasts⟩)
      · exact .inl (.inr hopened)
      · exact .inl (.inl ⟨o, ho, hsuccess, hlasts⟩)
      · exact .inr ⟨hopen, hends, hlasts⟩
    · rintro ((⟨o, ho, hsuccess, hlasts⟩ | hopened) | ⟨hopen, hends, hlasts⟩)
      · exact .inr ⟨.inl ⟨o, ho, hsuccess⟩, hlasts⟩
      · exact .inl hopened
      · exact .inr ⟨.inr ⟨hopen, hends⟩, hlasts⟩

/-- A connection is open exactly when it was opened and since then was not closed, and its stream
did not fail. A failed attempt to open it tells the one cause, and leaves all but the diagnostics
and the network as it was. -/
theorem open_since_opened (c : Connection ν) (ops : List Operation) :
    let c' := c.performAll ops
    (c'.isOpen = true ↔ c.OpenedIn ops ∨ (c.isOpen = true ∧ c.Lasts ops)) ∧
    (∀ o, ((c'.establish o).1 = .success ↔ ∃ n, c'.Connects o n) ∧
      (∀ n, c'.Connects o n → c'.establish o =
        (.success, { c'.withNetwork n with isOpen := true, options := o, diagnostics := {} })) ∧
      ((c'.establish o).1 ≠ .success → ∃ code text n d, c'.Refuses o code text n ∧
        TellsCause o code text d ∧
        c'.establish o = (.error, { c'.withNetwork n with diagnostics := d })) ∧
      (c'.isOpen = true → ∃ d, TellsCause o "08002" "Already connected." d ∧
        c'.establish o = (.error, { c' with diagnostics := d }))) ∧
    (c'.isOpen = true → c'.release = (.success, { c'.drop with diagnostics := {} })) ∧
    (c'.isOpen = false → ∃ d, TellsCause c'.options "08003" "Connection is not open." d ∧
      c'.release = (.error, { c' with diagnostics := d })) ∧
    c'.release.2.isOpen = false := by
  intro c'
  refine ⟨isOpen_performAll_iff ops, fun o => ⟨establish_eq_success_iff, ?_, ?_, ?_⟩,
    release_of_open, release_of_closed, isOpen_release c'⟩
  · intro n hconnects
    exact hconnects.establish
  · intro hfailed
    exact establish_of_refusal fun hconnects => hfailed (establish_eq_success_iff.mpr hconnects)
  · intro hopen
    have hconnects : ¬ ∃ n, c'.Connects o n := by
      rintro ⟨_, hclosed, _⟩
      cases hopen.symm.trans hclosed
    obtain ⟨code, text, n, d, hrefuses, htells, heq⟩ := establish_of_refusal hconnects
    -- every other cause is one of a closed connection
    cases hrefuses with
    | alreadyOpen _ => exact ⟨d, htells, heq⟩
    | noCache hclosed _ => cases hopen.symm.trans hclosed
    | unreachable hclosed _ _ => cases hopen.symm.trans hclosed
    | unset hclosed _ _ _ => cases hopen.symm.trans hclosed

end GridClient.Connection
