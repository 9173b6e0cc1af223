import GridClient.Proofs.ReaderPositions
import GridClient.Proofs.ResponseReading

/-!
Reading on speculation. A block of reads is kept or given up as a whole, also where other blocks lie
in it, and each read in it either takes exactly the bytes of its value or stays where it was.
-/
namespace GridClient

/-- What can be asked of a reader. -/
inductive ReadOp where
  | position | isEmpty | remaining
  | uint8 | int8 | bool | uint16 | int16 | int32 | int64 | binary32 | binary64
  | bytes (count : Nat)
  | length
  | columnHeader
  | string
  | guid
  | objectHeader
  | object
  deriving DecidableEq, Repr

namespace ReadOp

/-- What an operation gives. -/
abbrev Value : ReadOp → Type
  | isEmpty | bool => Bool
  | uint8 | columnHeader => UInt8
  | int8 => Int8
  | uint16 => UInt16
  | int16 => Int16
  | int32 => Int32
  | int64 => Int64
  | binary32 => Binary32
  | binary64 => Binary64
  | remaining | bytes _ | object => Bytes
  | position | length => Nat
  | string => Option String
  | guid => Option Guid
  | objectHeader => Option ObjectHeader

def decoder : (op : ReadOp) → Decoder op.Value
  | position => fun r => .ok r.position r
  | isEmpty => fun r => .ok r.isEmpty r
  | remaining => Decoder.remaining
  | uint8 => Decoder.uint8
  | int8 => Decoder.int8
  | bool => Decoder.bool
  | uint16 => Decoder.uint16
  | int16 => Decoder.int16
  | int32 => Decoder.int32
  | int64 => Decoder.int64
  | binary32 => Decoder.binary32
  | binary64 => Decoder.binary64
  | bytes count => Decoder.take count
  | length => Decoder.length
  | columnHeader => Decoder.columnHeader
  | string => Decoder.string
  | guid => Decoder.guid
  | objectHeader => Decoder.peekObjectHeader
  | object => Decoder.object

/-- The tags that are taken off when they are looked at: those of the primitives and of null. -/
def consumedTags : List UInt8 := [1, 2, 3, 4, 5, 6, 7, 8, 101]

/-- An operation finds a value in front of a reader and takes the first bytes there: those that
spell the value. The tag of a column is taken only when it is consumed. What is left and the header
of an object are only looked at. -/
def Finds : (op : ReadOp) → Reader → op.Value → Bytes → Prop
  | position, r, n, taken => taken = [] ∧ n = r.position
  | isEmpty, r, empty, taken => taken = [] ∧ (empty = true ↔ r.rest = [])
  | remaining, r, v, taken => taken = [] ∧ v = r.rest
  | uint8, _, v, taken => taken = [v]
  | int8, _, v, taken => taken = LittleEndian.encode 1 v.toUInt8.toNat
  | bool, _, v, taken => ∃ byte : UInt8, taken = [byte] ∧ v = (byte != 0)
  | uint16, _, v, taken => taken = LittleEndian.encode 2 v.toNat
  | int16, _, v, taken => taken = LittleEndian.encode 2 v.toUInt16.toNat
  | int32, _, v, taken => taken = encodeInt32 v
  | int64, _, v, taken => taken = encodeInt64 v
  | binary32, _, v, taken => taken = LittleEndian.encode 4 v.bits.toNat
  | binary64, _, v, taken => taken = LittleEndian.encode 8 v.bits.toNat
  | bytes count, _, v, taken => taken = v ∧ taken.length = count
  | length, _, n, taken => taken = LittleEndian.encode 4 n ∧ Nat.lt n 0x80000000
  | columnHeader, r, tag, taken =>
    taken = (if consumedTags.contains tag then [tag] else []) ∧ ∃ more, r.rest = tag :: more
  | string, _, text?, taken => encodeOptionalString text? = .ok taken
  | guid, _, g?, taken => taken = encodeOptionalGuid g?
  | objectHeader, r, some header, taken => taken = [] ∧
    ∃ more, r.rest = header.encode ++ more ∧ header.tag = 103 ∧ header.version = 1
  | objectHeader, r, none, taken => taken = [] ∧ ¬ ∃ more, r.rest = 103 :: 1 :: more
  | object, _, v, taken => taken = v ∧ ∃ (header : ObjectHeader) (body : Bytes),
    taken = header.encode ++ body ∧ header.tag = 103 ∧ header.version = 1 ∧
      header.length.toInt = 16 + body.length

theorem consumed_iff (tag : UInt8) :
    (TypeTag.ofCode? tag).any TypeTag.isConsumedOnPeek = true ↔
      consumedTags.contains tag = true := by
  constructor
  · intro h
    cases hcode : TypeTag.ofCode? tag with
    | none =>
      rw [hcode] at h
      cases h
    | some kind =>
      rw [hcode] at h
      rw [← TypeTag.code_of_ofCode? hcode]
      cases kind <;> first | rfl | cases h
  · intro h
    simp only [consumedTags, List.contains_iff_mem, List.mem_cons, List.not_mem_nil, or_false] at h
    rcases h with rfl | rfl | rfl | rfl | rfl | rfl | rfl | rfl | rfl <;> rfl

/-! ### One read -/

open Decoder

variable {op : ReadOp} {r r' : Reader}

/-- All but a length are read as a whole or not at all. -/
theorem failsInPlace (op : ReadOp) (h : op ≠ .length) : FailsInPlace op.decoder := by
  cases op with
  | position | isEmpty | remaining => exact nofun
  | uint8 => exact failsInPlace_uint8
  | int8 => exact failsInPlace_uint8.map
  | bool => exact failsInPlace_uint8.map
  | uint16 => exact failsInPlace_uint16
  | int16 => exact failsInPlace_uint16.map
  | int32 => exact failsInPlace_uint32.map
  | int64 => exact failsInPlace_uint64.map
  | binary32 => exact failsInPlace_uint32.map
  | binary64 => exact failsInPlace_uint64.map
  | bytes count => exact failsInPlace_take count
  | length => exact absurd rfl h
  | columnHeader => exact failsInPlace_columnHeader
  | string => exact failsInPlace_atomically _
  | guid => exact failsInPlace_atomically _
  | objectHeader => exact failsInPlace_peek _
  | object => exact failsInPlace_object

/-- From `r` to `r'` an operation has taken the bytes that spell its value, and no more. -/
def Takes (op : ReadOp) (r : Reader) (value : op.Value) (r' : Reader) : Prop :=
  ∃ taken, op.Finds r value taken ∧ r.rest = taken ++ r'.rest ∧
    r'.position = r.position + taken.length

theorem takes_columnHeader {tag : UInt8} (h : Decoder.columnHeader r = .ok tag r') :
    columnHeader.Takes r tag r' := by
  obtain ⟨r₁, hu, rfl⟩ := columnHeader_accepts.mp h
  obtain ⟨hrest, hposition⟩ := spells_uint8 _ _ _ hu
  by_cases hc : (TypeTag.ofCode? tag).any TypeTag.isConsumedOnPeek = true
  · rw [if_pos hc]
    exact ⟨[tag], ⟨(if_pos ((consumed_iff tag).mp hc)).symm, _, hrest⟩, hrest, hposition⟩
  · rw [if_neg hc]
    exact ⟨[], ⟨(if_neg (mt (consumed_iff tag).mpr hc)).symm, _, hrest⟩, rfl, rfl⟩

/-- No header is found only where no object of the known version opens: once one does, its fields
are read or missing. -/
theorem not_opens_of_peekObjectHeader (h : peekObjectHeader r = .ok none r') :
    ¬ ∃ more, r.rest = 103 :: 1 :: more := by
  rintro ⟨more, hmore⟩
  obtain ⟨-, r₁, h₁⟩ := peek_accepts.mp h
  obtain ⟨opens, r₂, hpeek, h₂⟩ := bind_accepts.mp h₁
  obtain ⟨-, r₃, hopens⟩ := peek_accepts.mp hpeek
  have hreads : Reads opensObject [103, 1] true :=
    Reads.tagged ((reads_uint8 1).map (f := (· == ObjectHeader.protocolVersion)))
  have htrue := hreads r.position more
  rw [show [103, 1] ++ more = r.rest from hmore.symm] at htrue
  cases hopens.symm.trans htrue
  obtain ⟨header, _, hsome⟩ := map_accepts.mp h₂
  cases hsome

/-- A read that succeeds takes exactly what it gives. -/
theorem takes_of_ok {value : op.Value} (h : op.decoder r = .ok value r') :
    op.Takes r value r' := by
  cases op with
  | position | remaining =>
    cases h
    exact ⟨[], ⟨rfl, rfl⟩, rfl, rfl⟩
  | isEmpty =>
    cases h
    exact ⟨[], ⟨rfl, List.isEmpty_iff⟩, rfl, rfl⟩
  | uint8 => exact ⟨_, rfl, spells_uint8 _ _ _ h⟩
  | int8 => exact ⟨_, rfl, spells_int8 _ _ _ h⟩
  | bool =>
    obtain ⟨byte, hbyte, rfl⟩ := map_accepts.mp h
    exact ⟨_, ⟨byte, rfl, rfl⟩, spells_uint8 _ _ _ hbyte⟩
  | uint16 => exact ⟨_, rfl, spells_uint16 _ _ _ h⟩
  | int16 => exact ⟨_, rfl, spells_int16 _ _ _ h⟩
  | int32 => exact ⟨_, rfl, spells_int32 _ _ _ h⟩
  | int64 => exact ⟨_, rfl, spells_int64 _ _ _ h⟩
  | binary32 => exact ⟨_, rfl, spells_binary32 _ _ _ h⟩
  | binary64 => exact ⟨_, rfl, spells_binary64 _ _ _ h⟩
  | bytes count =>
    obtain ⟨hrest, hcount⟩ := rest_of_take h
    have hreads := reads_take value
    rw [hcount] at hreads
    exact ⟨_, ⟨rfl, hcount⟩, hrest, hreads.position_eq h hrest⟩
  | length =>
    obtain ⟨hrest, hlt⟩ := rest_of_length h
    exact ⟨_, ⟨rfl, hlt⟩, hrest, (reads_length hlt).position_eq h hrest⟩
  | columnHeader => exact takes_columnHeader h
  | string =>
    obtain ⟨taken, hwritten, hrest⟩ := rest_of_optionalString h
    exact ⟨taken, hwritten, hrest, (reads_optionalString hwritten).position_eq h hrest⟩
  | guid => exact ⟨_, rfl, spells_guid _ _ _ h⟩
  | objectHeader =>
    cases value with
    | some header =>
      obtain ⟨rfl, htag, hversion, more, hmore⟩ := rest_of_peekObjectHeader h
      exact ⟨[], ⟨rfl, more, hmore, htag, hversion⟩, rfl, rfl⟩
    | none =>
      have hnot := not_opens_of_peekObjectHeader h
      obtain ⟨rfl, _⟩ := peek_accepts.mp h
      exact ⟨[], ⟨rfl, hnot⟩, rfl, rfl⟩
  | object =>
    obtain ⟨hrest, header, body, hvalue, htag, hversion, hlength⟩ := rest_of_object h
    rw [hvalue] at hrest
    exact ⟨_, ⟨hvalue.symm, header, body, rfl, htag, hversion, hlength⟩, hrest,
      (reads_object htag hversion hlength).position_eq h hrest⟩

end ReadOp

/-- A program of reads. What it goes on with depends on what each read answered, a failure included.
A block says at its end whether it is to be kept; one that gives up early says no. -/
inductive ReadScript : Type → Type 1 where
  | done {α : Type} (a : α) : ReadScript α
  | read {α : Type} (op : ReadOp) (next : Except Error op.Value → ReadScript α) : ReadScript α
  | block {α β : Type} (body : ReadScript (Bool × β)) (next : β → ReadScript α) : ReadScript α

namespace ReadScript

/-- Runs a program on a reader: what it gives and where the reader is left. -/
def run {α : Type} : ReadScript α → Reader → α × Reader
  | done a, r => (a, r)
  | read op next, r =>
    match op.decoder r with
    | .ok value r' => (next (.ok value)).run r'
    | .error e r' => (next (.error e)).run r'
  | block body next, r =>
    let ((committed, b), reached) := body.run r
    (next b).run (.settle r reached committed)

/-- A run of a program in which the reader stands in its bytes at every point. A read has taken what
it gives or has left the reader alone; only a length that is negative has been passed when it is
refused. A block goes on from where its body got when it is kept, and else from where it began. -/
inductive Atomic (bytes : Bytes) : {α : Type} → ReadScript α → Reader → α → Reader → Prop where
  | done {α : Type} {a : α} {r : Reader} (inside : r.Within bytes) : Atomic bytes (.done a) r a r
  | taken {α : Type} {op : ReadOp} {next : Except Error op.Value → ReadScript α}
    {value : op.Value} {a : α} {r r₁ r' : Reader} (inside : r.Within bytes)
    (reads : op.decoder r = .ok value r₁) (takes : op.Takes r value r₁)
    (on : Atomic bytes (next (.ok value)) r₁ a r') :
    Atomic bytes (.read op next) r a r'
  | refused {α : Type} {op : ReadOp} {next : Except Error op.Value → ReadScript α}
    {e : Error} {a : α} {r r' : Reader} (inside : r.Within bytes)
    (fails : op.decoder r = .error e r) (on : Atomic bytes (next (.error e)) r a r') :
    Atomic bytes (.read op next) r a r'
  | negative {α : Type} {next : Except Error Nat → ReadScript α} {n : Int32}
    {e : Error} {a : α} {r r₁ r' : Reader} (inside : r.Within bytes)
    (fails : Decoder.length r = .error e r₁) (negative : n < 0)
    (rest : r.rest = encodeInt32 n ++ r₁.rest) (position : r₁.position = r.position + 4)
    (on : Atomic bytes (next (.error e)) r₁ a r') : Atomic bytes (.read .length next) r a r'
  | kept {α β : Type} {body : ReadScript (Bool × β)} {next : β → ReadScript α} {b : β} {a : α}
    {r reached r' : Reader} (inside : r.Within bytes)
    (inner : Atomic bytes body r (true, b) reached) (on : Atomic bytes (next b) reached a r') :
    Atomic bytes (.block body next) r a r'
  | dropped {α β : Type} {body : ReadScript (Bool × β)} {next : β → ReadScript α} {b : β} {a : α}
    {r reached r' : Reader} (inside : r.Within bytes)
    (inner : Atomic bytes body r (false, b) reached) (on : Atomic bytes (next b) r a r') :
    Atomic bytes (.block body next) r a r'

variable {α β : Type} {bytes : Bytes} {r r' : Reader} {a : α} {script : ReadScript α}

theorem Atomic.within (h : script.Atomic bytes r a r') : r'.Within bytes := by
  induction h with
  | done inside => exact inside
  | taken _ _ _ _ ih | refused _ _ _ ih | negative _ _ _ _ _ _ ih => exact ih
  | kept _ _ _ _ ih | dropped _ _ _ _ ih => exact ih

theorem atomic_read {op : ReadOp} {next : Except Error op.Value → ReadScript α}
    (inside : r.Within bytes)
    (ih : ∀ answer (r : Reader), r.Within bytes →
      (next answer).Atomic bytes r ((next answer).run r).1 ((next answer).run r).2) :
    (read op next).Atomic bytes r ((read op next).run r).1 ((read op next).run r).2 := by
  rw [run]
  cases hop : op.decoder r with
  | ok value r₁ =>
    obtain ⟨spelling, hfinds, hrest, hposition⟩ := ReadOp.takes_of_ok hop
    exact .taken inside hop ⟨spelling, hfinds, hrest, hposition⟩
      (ih _ r₁ (inside.behind hrest hposition))
  | error e r₁ =>
    by_cases hlength : op = .length
    · subst hlength
      rcases Decoder.length_fails hop with rfl | ⟨n, hn, hrest, hposition⟩
      · exact .refused inside hop (ih _ r₁ inside)
      · exact .negative inside hop hn hrest hposition (ih _ r₁ (inside.behind hrest hposition))
    · cases op.failsInPlace hlength r r₁ e hop
      exact .refused inside hop (ih _ r inside)

theorem atomic_run (script : ReadScript α) (inside : r.Within bytes) :
    script.Atomic bytes r (script.run r).1 (script.run r).2 := by
  induction script generalizing r with
  | done a => exact .done inside
  | read op next ih => exact atomic_read inside fun answer _ h => ih answer h
  | block body next ihBody ihNext =>
    -- the body starts where the block does, and its inner blocks are part of its own run
    have hinner := ihBody inside
    rw [run]
    generalize body.run r = ran at hinner
    obtain ⟨⟨committed, b⟩, reached⟩ := ran
    cases committed with
    | true => exact .kept inside hinner (ihNext b hinner.within)
    | false => exact .dropped inside hinner (ihNext b inside)

/-- Whatever is read, from wherever and in whatever blocks, the reader stays in its bytes, every
read takes exactly what it gives or leaves the reader alone, and a block that is not kept leaves no
trace of what was read in it. -/
theorem reads_atomically (bytes : Bytes) (start : Nat) (script : ReadScript α) :
    script.Atomic bytes (.startAt bytes start) (script.run (.startAt bytes start)).1
      (script.run (.startAt bytes start)).2 :=
  script.atomic_run (Reader.within_startAt bytes start)

/-- What an inner block keeps is still given up with the outer one. -/
example : (block (block (read .uint8 fun _ => done (true, ())) fun _ => done (false, ()))
    fun _ => read .uint8 done).run (.ofBytes [7, 8]) = (.ok 7, ⟨1, [8]⟩) := rfl

end ReadScript

end GridClient
