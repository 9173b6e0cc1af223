import GridClient.Options.FromUrl
import GridClient.Proofs.Writing
import Mathlib.Data.List.Induction

/-!
Options read off a URL, whatever the parser that takes the URL apart. Each pair of the query is
accepted or refused on its own; of those with one key the last holds.
-/
namespace GridClient.Options

variable {α : Type} {o o' o₁ o₂ : Options} {e : Error} {key value message : String}
  {pairs : List (String × String)}

/-! ### One pair -/

/-- The options with what a pair of the query says. -/
inductive Sets (o : Options) : String → String → Options → Prop where
  | pageSize {value : String} {n : Int32} (read : readInt32? value = some n) (positive : 0 < n) :
    Sets o "page_size" value { o with pageSize := n }
  | distributedJoins {value : String} {flag : Bool} (read : readFlag? value = some flag) :
    Sets o "distributed_joins" value { o with distributedJoins := flag }
  | tcpNoDelay {value : String} {flag : Bool} (read : readFlag? value = some flag) :
    Sets o "tcp_nodelay" value { o with tcpNoDelay := flag }
  | readTimeout {value : String} {n : UInt64} (read : readUInt64? value = some n) :
    Sets o "read_timeout_ms" value { o with readTimeout := some n }
  | writeTimeout {value : String} {n : UInt64} (read : readUInt64? value = some n) :
    Sets o "write_timeout_ms" value { o with writeTimeout := some n }

/-- A pair of the query that says nothing, and the text that tells why. -/
inductive Refuses : String → String → String → Prop where
  | number {key value : String} (known : key = "page_size") (unread : readInt32? value = none) :
    Refuses key value ("Invalid value '" ++ value ++ "' for '" ++ key ++ "'")
  | pageSize {value : String} {n : Int32} (read : readInt32? value = some n)
      (nonpositive : n ≤ 0) :
    Refuses "page_size" value ("page_size must be positive, got " ++ toString n.toInt)
  | flag {key value : String} (known : key = "distributed_joins" ∨ key = "tcp_nodelay")
      (unread : readFlag? value = none) :
    Refuses key value ("Invalid value '" ++ value ++ "' for '" ++ key ++ "'")
  | timeout {key value : String} (known : key = "read_timeout_ms" ∨ key = "write_timeout_ms")
      (unread : readUInt64? value = none) :
    Refuses key value ("Invalid value '" ++ value ++ "' for '" ++ key ++ "'")
  | unknown {key value : String}
      (strange : ∀ known ∈ ["page_size", "distributed_joins", "tcp_nodelay", "read_timeout_ms",
        "write_timeout_ms"], key ≠ known) :
    Refuses key value ("Unknown connection option '" ++ key ++ "'")

/-- Whether a pair is accepted. What the options are so far does not matter. -/
def Accepts (pair : String × String) : Prop := ∀ o, ∃ o', Sets o pair.1 pair.2 o'

theorem Sets.accepts (h : Sets o key value o') : Accepts (key, value) := by
  intro o
  cases h with
  | pageSize read positive => exact ⟨_, .pageSize read positive⟩
  | distributedJoins read => exact ⟨_, .distributedJoins read⟩
  | tcpNoDelay read => exact ⟨_, .tcpNoDelay read⟩
  | readTimeout read => exact ⟨_, .readTimeout read⟩
  | writeTimeout read => exact ⟨_, .writeTimeout read⟩

theorem valueOf_cases (read? : String → Option α) (key value : String) :
    (∃ a, read? value = some a ∧ valueOf read? key value = .ok a) ∨
    read? value = none ∧ valueOf read? key value =
      .error (.badConfiguration ("Invalid value '" ++ value ++ "' for '" ++ key ++ "'")) := by
  unfold valueOf
  cases read? value with
  | none => exact .inr ⟨rfl, rfl⟩
  | some a => exact .inl ⟨a, rfl, rfl⟩

theorem set_cases (o : Options) (key value : String) :
    (∃ o', o.set key value = .ok o' ∧ Sets o key value o') ∨
    ∃ message, o.set key value = .error (.badConfiguration message) ∧
      Refuses key value message := by
  unfold set
  split
  · obtain ⟨n, hread, hvalue⟩ | ⟨hread, hvalue⟩ := valueOf_cases readInt32? "page_size" value
    · by_cases hn : n ≤ 0
      · exact .inr ⟨_, by simp [hvalue, hn, bind, Except.bind, throw, throwThe,
          MonadExceptOf.throw], .pageSize hread hn⟩
      · exact .inl ⟨_, by simp [hvalue, hn, bind, Except.bind, pure, Except.pure],
          .pageSize hread (Int32.not_le.mp hn)⟩
    · exact .inr ⟨_, by simp [hvalue, bind, Except.bind], .number rfl hread⟩
  · obtain ⟨flag, hread, hvalue⟩ | ⟨hread, hvalue⟩ :=
      valueOf_cases readFlag? "distributed_joins" value
    · exact .inl ⟨_, by rw [hvalue]; rfl, .distributedJoins hread⟩
    · exact .inr ⟨_, by rw [hvalue]; rfl, .flag (.inl rfl) hread⟩
  · obtain ⟨flag, hread, hvalue⟩ | ⟨hread, hvalue⟩ := valueOf_cases readFlag? "tcp_nodelay" value
    · exact .inl ⟨_, by rw [hvalue]; rfl, .tcpNoDelay hread⟩
    · exact .inr ⟨_, by rw [hvalue]; rfl, .flag (.inr rfl) hread⟩
  · obtain ⟨n, hread, hvalue⟩ | ⟨hread, hvalue⟩ :=
      valueOf_cases readUInt64? "read_timeout_ms" value
    · exact .inl ⟨_, by rw [hvalue]; rfl, .readTimeout hread⟩
    · exact .inr ⟨_, by rw [hvalue]; rfl, .timeout (.inl rfl) hread⟩
  · obtain ⟨n, hread, hvalue⟩ | ⟨hread, hvalue⟩ :=
      valueOf_cases readUInt64? "write_timeout_ms" value
    · exact .inl ⟨_, by rw [hvalue]; rfl, .writeTimeout hread⟩
    · exact .inr ⟨_, by rw [hvalue]; rfl, .timeout (.inr rfl) hread⟩
  · rename_i hpage hjoins hdelay hread hwrite
    exact .inr ⟨_, rfl, .unknown (by simp; exact ⟨hpage, hjoins, hdelay, hread, hwrite⟩)⟩

theorem set_eq_ok_iff : o.set key value = .ok o' ↔ Sets o key value o' := by
  constructor
  · intro hset
    obtain ⟨o₁, hok, hsets⟩ | ⟨message, herror, -⟩ := set_cases o key value
    · cases hok.symm.trans hset
      exact hsets
    · cases herror.symm.trans hset
  · intro hsets
    cases hsets with
    | pageSize read positive =>
      simp [set, valueOf, read, Int32.not_le.mpr positive, bind, Except.bind, pure, Except.pure]
    | _ read => simp [set, valueOf, read, bind, Except.bind, pure, Except.pure]

theorem set_eq_error_iff :
    o.set key value = .error e ↔
      ∃ message, e = .badConfiguration message ∧ Refuses key value message := by
  constructor
  · intro hset
    obtain ⟨o₁, hok, -⟩ | ⟨message, herror, hrefuses⟩ := set_cases o key value
    · cases hok.symm.trans hset
    · cases herror.symm.trans hset
      exact ⟨message, rfl, hrefuses⟩
  · rintro ⟨message, rfl, hrefuses⟩
    cases hrefuses with
    | number known unread =>
      subst known
      simp [set, valueOf, unread, bind, Except.bind]
    | pageSize read nonpositive =>
      simp [set, valueOf, read, nonpositive, bind, Except.bind, throw, throwThe,
        MonadExceptOf.throw]
    | flag known unread =>
      rcases known with rfl | rfl <;> simp [set, valueOf, unread, bind, Except.bind]
    | timeout known unread =>
      rcases known with rfl | rfl <;> simp [set, valueOf, unread, bind, Except.bind]
    | unknown strange =>
      unfold set
      split <;> simp_all

theorem Sets.pageSize_pos (h : Sets o key value o') (ho : 0 < o.pageSize) : 0 < o'.pageSize := by
  cases h with
  | pageSize read positive => exact positive
  | _ => exact ho

/-! ### The query -/

/-- What the last pair with a key says, or what goes without saying. -/
def lastOf (read? : String → Option α) (byDefault : α) (pairs : List (String × String))
    (key : String) : Option α :=
  match pairs.reverse.lookup key with
  | none => some byDefault
  | some value => read? value

/-- The options with everything that the pairs of a query say. -/
structure Says (o : Options) (pairs : List (String × String)) (o' : Options) : Prop where
  host : o'.host = o.host
  port : o'.port = o.port
  cache : o'.cache = o.cache
  pageSize : lastOf readInt32? o.pageSize pairs "page_size" = some o'.pageSize
  distributedJoins :
    lastOf readFlag? o.distributedJoins pairs "distributed_joins" = some o'.distributedJoins
  tcpNoDelay : lastOf readFlag? o.tcpNoDelay pairs "tcp_nodelay" = some o'.tcpNoDelay
  readTimeout : lastOf (fun value => (readUInt64? value).map some) o.readTimeout pairs
    "read_timeout_ms" = some o'.readTimeout
  writeTimeout : lastOf (fun value => (readUInt64? value).map some) o.writeTimeout pairs
    "write_timeout_ms" = some o'.writeTimeout

theorem Says.nil (o : Options) : Says o [] o := by
  constructor <;> rfl

theorem lastOf_concat (read? : String → Option α) (byDefault : α) (key key' : String) :
    lastOf read? byDefault (pairs ++ [(key', value)]) key =
      if key = key' then read? value else lastOf read? byDefault pairs key := by
  by_cases h : key = key'
  · simp [lastOf, h]
  · simp [lastOf, List.lookup_cons, h, beq_false_of_ne h]

/-- One more pair leaves alone what it says nothing of. -/
theorem Says.concat (h : Says o pairs o₁) (hsets : Sets o₁ key value o') :
    Says o (pairs ++ [(key, value)]) o' := by
  obtain ⟨hhost, hport, hcache, hpage, hjoins, hdelay, hread, hwrite⟩ := h
  cases hsets <;> constructor <;> simp_all [lastOf_concat]

theorem Says.unique (h₁ : Says o pairs o₁) (h₂ : Says o pairs o₂) : o₁ = o₂ := by
  obtain ⟨hhost, hport, hcache, hpage, hjoins, hdelay, hread, hwrite⟩ := h₁
  obtain ⟨hhost', hport', hcache', hpage', hjoins', hdelay', hread', hwrite'⟩ := h₂
  have hpageSize := Option.some.inj (hpage.symm.trans hpage')
  have hdistributed := Option.some.inj (hjoins.symm.trans hjoins')
  have hnoDelay := Option.some.inj (hdelay.symm.trans hdelay')
  have hreadTimeout := Option.some.inj (hread.symm.trans hread')
  have hwriteTimeout := Option.some.inj (hwrite.symm.trans hwrite')
  cases o₁
  cases o₂
  simp_all

theorem setAll_cons (o : Options) (pair : String × String) (pairs : List (String × String)) :
    o.setAll (pair :: pairs) = o.set pair.1 pair.2 >>= (setAll · pairs) :=
  List.foldlM_cons

theorem setAll_concat (o : Options) (pairs : List (String × String)) (pair : String × String) :
    o.setAll (pairs ++ [pair]) = o.setAll pairs >>= (·.set pair.1 pair.2) := by
  simp [setAll, List.foldlM_append]

theorem says_of_setAll (h : o.setAll pairs = .ok o') : Says o pairs o' := by
  induction pairs using List.reverseRecOn generalizing o' with
  | nil =>
    cases h
    exact Says.nil o
  | append_singleton pairs pair ih =>
    rw [setAll_concat, bind_eq_ok] at h
    obtain ⟨o₁, hbefore, hlast⟩ := h
    exact (ih hbefore).concat (set_eq_ok_iff.mp hlast)

theorem exists_setAll_iff : (∃ o', o.setAll pairs = .ok o') ↔ ∀ pair ∈ pairs, Accepts pair := by
  induction pairs generalizing o with
  | nil => exact iff_of_true ⟨o, rfl⟩ (by simp)
  | cons pair pairs ih =>
    simp only [setAll_cons, bind_eq_ok, set_eq_ok_iff, List.forall_mem_cons]
    constructor
    · rintro ⟨o', o₁, hsets, hrest⟩
      exact ⟨hsets.accepts, ih.mp ⟨o', hrest⟩⟩
    · rintro ⟨hpair, hpairs⟩
      obtain ⟨o₁, hsets⟩ := hpair o
      obtain ⟨o', hrest⟩ := ih.mpr hpairs
      exact ⟨o', o₁, hsets, hrest⟩

theorem setAll_eq_ok_iff :
    o.setAll pairs = .ok o' ↔ (∀ pair ∈ pairs, Accepts pair) ∧ Says o pairs o' := by
  constructor
  · intro h
    exact ⟨exists_setAll_iff.mp ⟨o', h⟩, says_of_setAll h⟩
  · rintro ⟨haccepts, hsays⟩
    obtain ⟨o₁, h⟩ := exists_setAll_iff.mpr haccepts
    rw [h, (says_of_setAll h).unique hsays]

theorem setAll_eq_error_iff :
    o.setAll pairs = .error e ↔
      ∃ before key value after message, pairs = before ++ (key, value) :: after ∧
        (∀ pair ∈ before, Accepts pair) ∧ Refuses key value message ∧
        e = .badConfiguration message := by
  induction pairs generalizing o with
  | nil => exact iff_of_false nofun (by simp)
  | cons pair pairs ih =>
    simp only [setAll_cons, bind_eq_error, set_eq_error_iff, set_eq_ok_iff, ih]
    constructor
    · rintro (⟨message, rfl, hrefuses⟩ |
        ⟨o₁, hsets, before, key, value, after, message, rfl, hbefore, hrest⟩)
      · exact ⟨[], _, _, pairs, message, rfl, by simp, hrefuses, rfl⟩
      · exact ⟨pair :: before, key, value, after, message, rfl,
          List.forall_mem_cons.mpr ⟨hsets.accepts, hbefore⟩, hrest⟩
    · rintro ⟨before, key, value, after, message, hpairs, hbefore, hrefuses, rfl⟩
      cases before with
      | nil =>
        cases hpairs
        exact .inl ⟨message, rfl, hrefuses⟩
      | cons first before =>
        cases hpairs
        obtain ⟨hfirst, hbefore⟩ := List.forall_mem_cons.mp hbefore
        obtain ⟨o₁, hsets⟩ := hfirst o
        exact .inr ⟨o₁, hsets, before, key, value, after, message, rfl, hbefore, hrefuses, rfl⟩

theorem pageSize_pos_of_setAll (h : o.setAll pairs = .ok o') (ho : 0 < o.pageSize) :
    0 < o'.pageSize := by
  induction pairs generalizing o with
  | nil =>
    cases h
    exact ho
  | cons pair pairs ih =>
    rw [setAll_cons, bind_eq_ok] at h
    obtain ⟨o₁, hset, hrest⟩ := h
    exact ih hrest ((set_eq_ok_iff.mp hset).pageSize_pos ho)

/-! ### The whole -/

/-- What is wrong with a text that options cannot be read off: the first fault that is met. -/
inductive Faulty (parse : String → Except String UrlParts) (text : String) : String → Prop where
  | url {fault : String} (unparsed : parse text = .error fault) :
    Faulty parse text ("Failed to parse Ignite URL: " ++ fault)
  | scheme {url : UrlParts} (parsed : parse text = .ok url) (other : url.scheme ≠ "ignite") :
    Faulty parse text ("Invalid URL scheme '" ++ url.scheme ++ "', expected 'ignite'")
  | pair {url : UrlParts} {before after : List (String × String)} {key value message : String}
      (parsed : parse text = .ok url) (ours : url.scheme = "ignite")
      (split : url.pairs = before ++ (key, value) :: after)
      (accepted : ∀ pair ∈ before, Accepts pair) (refused : Refuses key value message) :
    Faulty parse text message

section

variable (parse : String → Except String UrlParts) (text : String)

/-- Options are read off just those URLs of the scheme whose pairs are all accepted. -/
theorem readBy_eq_ok_iff :
    readBy parse text = .ok o ↔
      ∃ url, parse text = .ok url ∧ url.scheme = "ignite" ∧
        (∀ pair ∈ url.pairs, Accepts pair) ∧ Says (ofParts url) url.pairs o := by
  unfold readBy
  cases parse text with
  | error fault => simp
  | ok url => by_cases hscheme : url.scheme = "ignite" <;> simp [hscheme, setAll_eq_ok_iff]

/-- Every other text is refused for its first fault. -/
theorem readBy_eq_error_iff :
    readBy parse text = .error e ↔
      ∃ message, e = .badConfiguration message ∧ Faulty parse text message := by
  constructor
  · intro h
    unfold readBy at h
    split at h
    · rename_i fault hparse
      cases h
      exact ⟨_, rfl, .url hparse⟩
    · rename_i url hparse
      split at h
      · rename_i hscheme
        obtain ⟨before, key, value, after, message, hpairs, hbefore, hrefuses, rfl⟩ :=
          setAll_eq_error_iff.mp h
        exact ⟨message, rfl, .pair hparse hscheme hpairs hbefore hrefuses⟩
      · rename_i hscheme
        cases h
        exact ⟨_, rfl, .scheme hparse hscheme⟩
  · rintro ⟨message, rfl, hfaulty⟩
    cases hfaulty with
    | url unparsed => simp [readBy, unparsed]
    | scheme parsed other => simp [readBy, parsed, other]
    | pair parsed ours split accepted refused =>
      simp only [readBy, parsed, ours, if_true]
      exact setAll_eq_error_iff.mpr ⟨_, _, _, _, _, split, accepted, refused, rfl⟩

/-- Options that were read ask for some rows at a time. -/
theorem pageSize_pos_of_readBy (h : readBy parse text = .ok o) : 0 < o.pageSize := by
  obtain ⟨url, -, -, haccepts, hsays⟩ := (readBy_eq_ok_iff parse text).mp h
  have hdefault : (0 : Int32) < 1024 := by decide
  exact pageSize_pos_of_setAll (setAll_eq_ok_iff.mpr ⟨haccepts, hsays⟩) hdefault

end

end GridClient.Options
