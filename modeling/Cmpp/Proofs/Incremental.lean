import Cmpp.Proofs.Packets

/-!
# Bytes cut short and bytes to spare

A reader of fields takes bytes off the front and looks at no others (`Incremental`). What it has
read stays read whatever follows, and a part of the bytes that it took is not enough; a fault in
bytes that are there stays the same whatever follows, and the want of bytes is no less with fewer of
them. One reader after another is such a reader too (`Incremental.bind`), so the fields of every
layout are read like this, by induction on the layout.

The fields have to take up all the bytes. So bytes are accepted at one length at most: cut short
they are not enough, and extended there are some to spare (`Packet.decode_cut_or_extended`).
-/

namespace Cmpp

namespace FormatError

/-- More bytes are needed than there are. -/
def Starved : FormatError → Prop
  | .unexpectedEnd _ needed remaining => remaining < needed
  | .fieldTooLong .. | .invalidText _ | .tooManyDestinations .. | .trailingBytes _ => False

/-- The fault lies in bytes that are there. -/
def Settled : FormatError → Prop
  | .invalidText _ | .tooManyDestinations .. => True
  | .unexpectedEnd .. | .fieldTooLong .. | .trailingBytes _ => False

end FormatError

/-- A reading fails for want of bytes. -/
def Starves {α : Type} (outcome : Except FormatError α) : Prop :=
  ∃ error, outcome = .error error ∧ error.Starved

/-- What fails for want of bytes fails for it whatever was to be done next. -/
theorem Starves.bind {α β : Type} {outcome : Except FormatError α} (starves : Starves outcome)
    (next : α → Except FormatError β) : Starves (outcome >>= next) := by
  obtain ⟨error, failed, starved⟩ := starves
  exact ⟨error, by rw [failed]; rfl, starved⟩

/-- A reader that takes bytes off the front and looks at no others. -/
structure Incremental {α : Type} (read : Bytes → Except FormatError (α × Bytes)) : Prop where
  /-- What is read is a front of the bytes: it is read whatever follows, and no part of it is
  enough. -/
  took : ∀ {bytes value rest}, read bytes = .ok (value, rest) → ∃ front, bytes = front ++ rest ∧
    (∀ other, read (front ++ other) = .ok (value, other)) ∧
    ∀ part, part <+: front → part ≠ front → Starves (read part)
  /-- A fault is the want of bytes, which is no less with fewer of them, or lies in bytes that are
  there, whatever follows. -/
  fault : ∀ {bytes error}, read bytes = .error error →
    (error.Starved ∧ ∀ part, part <+: bytes → Starves (read part)) ∨
      (error.Settled ∧ ∀ more, read (bytes ++ more) = .error error)

/-- A part of two pieces is a part of the first, or all of it and a part of the second. -/
theorem part_or_more {α : Type} {part first second : List α} (inside : part <+: first ++ second) :
    (part <+: first ∧ part ≠ first) ∨ ∃ more, part = first ++ more ∧ more <+: second := by
  rcases List.prefix_or_prefix_of_prefix inside (List.prefix_append first second) with
    short | ⟨more, rfl⟩
  · by_cases whole : part = first
    · exact .inr ⟨[], by rw [whole, List.append_nil], List.nil_prefix⟩
    · exact .inl ⟨short, whole⟩
  · exact .inr ⟨more, rfl, (List.prefix_append_right_inj first).mp inside⟩

/-- A part that is not the whole is shorter. -/
theorem length_part_lt {α : Type} {part whole : List α} (inside : part <+: whole)
    (short : part ≠ whole) : part.length < whole.length :=
  Nat.lt_of_le_of_ne inside.length_le fun same => short (inside.eq_of_length same)

namespace Incremental

variable {α β : Type} {read : Bytes → Except FormatError (α × Bytes)}

/-- A reader that takes nothing. -/
theorem pure (value : α) : Incremental fun bytes => .ok (value, bytes) where
  took read := by
    cases read
    exact ⟨[], rfl, fun _ => rfl, fun part inside short => (short (List.prefix_nil.mp inside)).elim⟩
  fault := nofun

/-- A reader that finds fault with what has been read before. -/
theorem fail {error : FormatError} (settled : error.Settled) :
    Incremental fun _ => (.error error : Except FormatError (α × Bytes)) where
  took := nofun
  fault read := by
    cases read
    exact .inr ⟨settled, fun _ => rfl⟩

/-- One reader after another, which may go by what the first one has read. -/
theorem bind (next : α → Bytes → Except FormatError (β × Bytes)) (first : Incremental read)
    (second : ∀ value, Incremental (next value)) :
    Incremental fun bytes => do
      let (value, rest) ← read bytes
      next value rest where
  took {bytes result rest} both := by
    obtain ⟨⟨value, middle⟩, firstRead, secondRead⟩ := bind_eq_ok.mp both
    obtain ⟨front, rfl, again, parts⟩ := first.took firstRead
    obtain ⟨back, rfl, againLater, partsLater⟩ := (second value).took secondRead
    refine ⟨front ++ back, (List.append_assoc ..).symm, fun other => ?_,
      fun part inside short => ?_⟩
    · rw [List.append_assoc, again]
      exact againLater other
    -- Either the part is already not enough for the first reader, or only for the second.
    · rcases part_or_more inside with ⟨early, proper⟩ | ⟨more, rfl, late⟩
      · exact (parts part early proper).bind _
      · rw [again]
        exact partsLater more late fun whole => short (by rw [whole])
  fault {bytes error} failed := by
    cases firstRead : read bytes with
    | error cause =>
      rw [firstRead] at failed
      cases failed
      rcases first.fault firstRead with ⟨starved, parts⟩ | ⟨settled, again⟩
      · exact .inl ⟨starved, fun part inside => (parts part inside).bind _⟩
      · exact .inr ⟨settled, fun more => by rw [again]; rfl⟩
    | ok taken =>
      obtain ⟨value, middle⟩ := taken
      rw [firstRead] at failed
      obtain ⟨front, rfl, again, parts⟩ := first.took firstRead
      rcases (second value).fault failed with ⟨starved, partsLater⟩ | ⟨settled, againLater⟩
      · refine .inl ⟨starved, fun part inside => ?_⟩
        rcases part_or_more inside with ⟨early, proper⟩ | ⟨more, rfl, late⟩
        · exact (parts part early proper).bind _
        · rw [again]
          exact partsLater more late
      · refine .inr ⟨settled, fun more => ?_⟩
        rw [List.append_assoc, again]
        exact againLater more

/-- A reader whose result is looked at in another way. -/
theorem map (f : α → β) (incremental : Incremental read) :
    Incremental (fun bytes => do
      let (value, rest) ← read bytes
      .ok (f value, rest)) :=
  bind (fun value rest => .ok (f value, rest)) incremental fun _ => pure _

/-- Taking bytes off the front is incremental. -/
theorem takeOctets (name : String) (width : Nat) : Incremental (Cmpp.takeOctets name width) where
  took {bytes octets rest} taken := by
    refine ⟨octets.val, takeOctets_eq_ok taken, takeOctets_append name octets,
      fun part inside short => ?_⟩
    have fewer : part.length < width := octets.property ▸ length_part_lt inside short
    exact ⟨_, dif_neg (Nat.not_le.mpr fewer), fewer⟩
  fault {bytes error} failed := by
    unfold Cmpp.takeOctets at failed
    split at failed
    · cases failed
    · rename_i few
      cases failed
      refine .inl ⟨Nat.lt_of_not_le few, fun part inside => ?_⟩
      have fewer : part.length < width := Nat.lt_of_le_of_lt inside.length_le (Nat.lt_of_not_le few)
      exact ⟨_, dif_neg (Nat.not_le.mpr fewer), fewer⟩

/-- Reading a byte is incremental. -/
theorem decodeByte (name : String) : Incremental (Cmpp.decodeByte name) where
  took {bytes byte rest} taken := by
    refine ⟨[byte], decodeByte_eq_ok taken, fun _ => rfl, fun part inside short => ?_⟩
    have none : part = [] :=
      List.eq_nil_of_length_eq_zero (Nat.lt_one_iff.mp (length_part_lt inside short))
    exact ⟨.unexpectedEnd name 1 0, by rw [none]; rfl, Nat.zero_lt_one⟩
  fault {bytes error} failed := by
    cases bytes <;> cases failed
    refine .inl ⟨Nat.zero_lt_one, fun part inside => ?_⟩
    exact ⟨.unexpectedEnd name 1 0, by rw [List.prefix_nil.mp inside]; rfl, Nat.zero_lt_one⟩

/-- Reading a 32-bit word is incremental. -/
theorem decodeWord (name : String) : Incremental (Cmpp.decodeWord name) :=
  map (fun octets : Octets 4 => ofWord octets.val) (takeOctets name 4)

/-- Reading a 64-bit word is incremental. -/
theorem decodeLong (name : String) : Incremental (Cmpp.decodeLong name) :=
  map (fun octets : Octets 8 => ofLong octets.val) (takeOctets name 8)

/-- Interpret the bytes that fill a text field. -/
def interpret (name : String) {width : Nat} (octets : Octets width) (rest : Bytes) :
    Except FormatError (String × Bytes) :=
  match ofUtf8? (unpad octets.val) with
  | some text => .ok (text, rest)
  | none => .error (.invalidText name)

/-- Reading a text is incremental: its bytes are interpreted once all of them are there. -/
theorem decodeText (name : String) (width : Nat) : Incremental (Cmpp.decodeText name width) := by
  refine bind (interpret name) (takeOctets name width) fun octets => ?_
  unfold interpret
  cases ofUtf8? (unpad octets.val) with
  | some text => exact pure text
  | none => exact fail trivial

/-- Reading texts is incremental. -/
theorem decodeTexts (name : String) (width count : Nat) :
    Incremental (Cmpp.decodeTexts name width count) := by
  induction count with
  | zero => exact pure []
  | succ count ih =>
    exact bind _ (decodeText name width) fun text => map (text :: ·) ih

/-- Reading the value of a slot is incremental. -/
theorem slot (name : String) (slot : Slot) : Incremental (slot.decode name) := by
  cases slot with
  | byte => exact decodeByte name
  | word => exact decodeWord name
  | long => exact decodeLong name
  | octets width => exact takeOctets name width
  | text width => exact decodeText name width
  | texts width =>
    refine bind (fun count bytes =>
      if count.toNat ≤ maxDestinations then Cmpp.decodeTexts name width count.toNat bytes
      else .error (.tooManyDestinations count.toNat maxDestinations)) (decodeByte name)
        fun count => ?_
    by_cases few : count.toNat ≤ maxDestinations
    · simp only [if_pos few]
      exact decodeTexts name width count.toNat
    · simp only [if_neg few]
      exact fail trivial
  | content lengthName =>
    exact bind _ (decodeByte lengthName) fun length =>
      map Subtype.val (takeOctets name length.toNat)

/-- Reading the fields of a record is incremental. -/
theorem record (layout : Layout) : Incremental (Record.decode layout) := by
  induction layout with
  | nil => exact pure ()
  | cons field layout ih =>
    exact bind _ (slot field.name field.slot) fun value => map (value, ·) ih

end Incremental

/-! ## All the bytes -/

/-- Read what takes up all the bytes. -/
def exhaust {α : Type} (read : Bytes → Except FormatError (α × Bytes)) (bytes : Bytes) :
    Except FormatError α :=
  match read bytes with
  | .error error => .error error
  | .ok (value, []) => .ok value
  | .ok (_, rest) => .error (.trailingBytes rest.length)

namespace Incremental

variable {α : Type} {read : Bytes → Except FormatError (α × Bytes)} {bytes : Bytes}

/-- What takes up all the bytes is read, and nothing is left. -/
theorem exhaust_eq_ok {value : α} :
    exhaust read bytes = .ok value ↔ read bytes = .ok (value, []) := by
  unfold exhaust
  split
  · rename_i failed
    simp [failed]
  · rename_i taken
    simp [taken]
  · rename_i nonempty taken
    simp only [taken, reduceCtorEq, Except.ok.injEq, Prod.mk.injEq, false_iff, not_and]
    exact fun _ => nonempty

/-- What fails in the reader fails. -/
theorem exhaust_of_error {error : FormatError} (failed : read bytes = .error error) :
    exhaust read bytes = .error error := by
  simp only [exhaust, failed]

/-- Bytes to spare are counted. -/
theorem exhaust_of_spare {value : α} {rest : Bytes} (taken : read bytes = .ok (value, rest))
    (spare : rest ≠ []) : exhaust read bytes = .error (.trailingBytes rest.length) := by
  cases rest with
  | nil => exact (spare rfl).elim
  | cons byte rest => simp only [exhaust, taken]

/-- A failure is that of the reader, or there are bytes to spare. -/
theorem exhaust_error {error : FormatError} (failed : exhaust read bytes = .error error) :
    read bytes = .error error ∨
      ∃ value rest, read bytes = .ok (value, rest) ∧ rest ≠ [] ∧
        error = .trailingBytes rest.length := by
  unfold exhaust at failed
  split at failed
  · rename_i faulty
    cases failed
    exact .inl faulty
  · cases failed
  · rename_i value rest nonempty taken
    cases failed
    exact .inr ⟨value, rest, taken, nonempty, rfl⟩

/-- What is not enough for the reader is not enough. -/
theorem starves_exhaust (starves : Starves (read bytes)) : Starves (exhaust read bytes) := by
  obtain ⟨error, failed, starved⟩ := starves
  exact ⟨error, exhaust_of_error failed, starved⟩

variable (incremental : Incremental read)
include incremental

/-- No part of bytes that are taken up is enough, and with more bytes those are to spare. -/
theorem exhaust_accepted {value : α} (accepted : exhaust read bytes = .ok value) :
    (∀ part, part <+: bytes → part ≠ bytes → Starves (exhaust read part)) ∧
      ∀ more, more ≠ [] → exhaust read (bytes ++ more) = .error (.trailingBytes more.length) := by
  obtain ⟨front, whole, again, parts⟩ := incremental.took (exhaust_eq_ok.mp accepted)
  rw [List.append_nil] at whole
  subst whole
  exact ⟨fun part inside short => starves_exhaust (parts part inside short),
    fun more spare => exhaust_of_spare (again more) spare⟩

/-- Without the bytes to spare, the bytes are taken up. -/
theorem exhaust_spare {count : Nat}
    (failed : exhaust read bytes = .error (.trailingBytes count)) :
    1 ≤ count ∧ count ≤ bytes.length ∧
      ∃ value, exhaust read (bytes.take (bytes.length - count)) = .ok value := by
  rcases exhaust_error failed with faulty | ⟨value, rest, taken, spare, counted⟩
  · rcases incremental.fault faulty with ⟨starved, -⟩ | ⟨settled, -⟩
    · exact starved.elim
    · exact settled.elim
  · cases counted
    obtain ⟨front, rfl, again, -⟩ := incremental.took taken
    have kept : (front ++ rest).length - rest.length = front.length := by
      rw [List.length_append, Nat.add_sub_cancel]
    have inside : rest.length ≤ (front ++ rest).length := by
      rw [List.length_append]
      exact Nat.le_add_left ..
    refine ⟨List.length_pos_iff.mpr spare, inside, value, ?_⟩
    rw [kept, List.take_left, exhaust_eq_ok]
    simpa using again []

/-- A fault in bytes that are there stays the same whatever follows. -/
theorem exhaust_settled {error : FormatError} (failed : exhaust read bytes = .error error)
    (settled : error.Settled) (more : Bytes) : exhaust read (bytes ++ more) = .error error := by
  rcases exhaust_error failed with faulty | ⟨_, _, _, _, rfl⟩
  · rcases incremental.fault faulty with ⟨starved, -⟩ | ⟨-, again⟩
    · cases error <;> first | exact settled.elim | exact starved.elim
    · exact exhaust_of_error (again more)
  · exact settled.elim

/-- Bytes that are not enough are no more so in part. -/
theorem exhaust_starved {field : String} {needed remaining : Nat}
    (failed : exhaust read bytes = .error (.unexpectedEnd field needed remaining)) :
    ∀ part, part <+: bytes → Starves (exhaust read part) := by
  rcases exhaust_error failed with faulty | ⟨_, _, _, _, spare⟩
  · rcases incremental.fault faulty with ⟨-, parts⟩ | ⟨settled, -⟩
    · exact fun part inside => starves_exhaust (parts part inside)
    · exact settled.elim
  · cases spare

end Incremental

/-! ## Packets -/

/-- What fails for want of bytes says how many were needed and how many there were. -/
theorem starves_iff {α : Type} {outcome : Except FormatError α} :
    Starves outcome ↔ ∃ field needed remaining,
      outcome = .error (.unexpectedEnd field needed remaining) ∧ remaining < needed := by
  constructor
  · rintro ⟨error, failed, starved⟩
    cases error with
    | unexpectedEnd field needed remaining => exact ⟨field, needed, remaining, failed, starved⟩
    | fieldTooLong | invalidText | tooManyDestinations | trailingBytes => exact starved.elim
  · rintro ⟨field, needed, remaining, failed, starved⟩
    exact ⟨_, failed, starved⟩

namespace Packet

/-- Read the sequence number and the fields of a packet off the front. -/
def decodeFront (kind : Kind) (bytes : Bytes) : Except FormatError (Packet × Bytes) := do
  let (sequenceId, bytes) ← decodeWord "seq_id" bytes
  let (record, bytes) ← Record.decode kind.shape.layout bytes
  .ok (⟨kind, sequenceId, kind.shape.ofRecord record⟩, bytes)

/-- Reading a packet off the front is incremental. -/
theorem incremental_decodeFront (kind : Kind) : Incremental (decodeFront kind) :=
  .bind _ (.decodeWord "seq_id") fun sequenceId =>
    .map (fun record => (⟨kind, sequenceId, kind.shape.ofRecord record⟩ : Packet))
      (.record kind.shape.layout)

/-- A packet takes up all the bytes of its body. -/
theorem decode_eq_exhaust (kind : Kind) (body : Bytes) :
    Packet.decode kind body = exhaust (decodeFront kind) body := by
  unfold exhaust decodeFront Packet.decode Shape.decode Record.decodeAll
  cases decodeWord "seq_id" body with
  | error error => rfl
  | ok taken =>
    obtain ⟨sequenceId, bytes⟩ := taken
    simp only [bind, Except.bind]
    cases Record.decode kind.shape.layout bytes with
    | error error => rfl
    | ok taken =>
      obtain ⟨record, rest⟩ := taken
      cases rest <;> rfl

/-- How the body of a packet of any kind fares when it is cut short or extended. If it is accepted,
then no part of it is enough, and any bytes behind it are to spare, and counted. If there are bytes
to spare, then it is accepted without them. If one of its texts or its number of destinations is at
fault, then it is refused for the same fault whatever follows. If it is not enough, no part of it
is. -/
theorem decode_cut_or_extended (kind : Kind) (body : Bytes) :
    (∀ packet, Packet.decode kind body = .ok packet →
      (∀ part, part <+: body → part ≠ body → ∃ field needed remaining,
        Packet.decode kind part = .error (.unexpectedEnd field needed remaining) ∧
          remaining < needed) ∧
      ∀ more, more ≠ [] →
        Packet.decode kind (body ++ more) = .error (.trailingBytes more.length)) ∧
    (∀ count, Packet.decode kind body = .error (.trailingBytes count) →
      1 ≤ count ∧ count ≤ body.length ∧
        ∃ packet, Packet.decode kind (body.take (body.length - count)) = .ok packet) ∧
    (∀ error, Packet.decode kind body = .error error →
      ((∃ field, error = .invalidText field) ∨
        ∃ count max, error = .tooManyDestinations count max) →
      ∀ more, Packet.decode kind (body ++ more) = .error error) ∧
    ∀ field needed remaining,
      Packet.decode kind body = .error (.unexpectedEnd field needed remaining) →
      ∀ part, part <+: body → ∃ field needed remaining,
        Packet.decode kind part = .error (.unexpectedEnd field needed remaining) ∧
          remaining < needed := by
  have incremental := incremental_decodeFront kind
  simp only [decode_eq_exhaust, ← starves_iff]
  refine ⟨fun packet => incremental.exhaust_accepted, fun count => incremental.exhaust_spare,
    fun error failed fault => incremental.exhaust_settled failed ?_,
    fun field needed remaining => incremental.exhaust_starved⟩
  rcases fault with ⟨_, rfl⟩ | ⟨_, _, rfl⟩ <;> trivial

set_option maxRecDepth 2000 in
/-- Without its last byte the body of a message for two terminals is not enough, and a byte behind
it is to spare; two bytes are to spare behind the response to a test of the link; a login name that
is not UTF-8 is refused whatever follows it; and three bytes are no sequence number, nor are two.
-/
theorem decode_cut_or_extended_samples :
    (∃ bytes, sample.encode 7 = .ok bytes ∧
      (∃ field needed remaining, Packet.decode (.submit .third) (bodyOf bytes).dropLast =
        .error (.unexpectedEnd field needed remaining) ∧ remaining < needed) ∧
      Packet.decode (.submit .third) (bodyOf bytes ++ [0]) = .error (.trailingBytes 1)) ∧
    (∃ packet, Packet.decode .activeTestResponse ([0, 0, 0, 1, 9, 8, 7].take 5) = .ok packet) ∧
    Packet.decode .connect ([0, 0, 0, 1, 0xff, 0, 0, 0, 0, 0] ++ [1, 2, 3]) =
      .error (.invalidText "source_addr") ∧
    ∃ field needed remaining, Packet.decode .connect [0, 0] =
      .error (.unexpectedEnd field needed remaining) ∧ remaining < needed := by
  refine ⟨?_, ?_, ?_, ?_⟩
  · have encoded : ∃ bytes, sample.encode 7 = .ok bytes := ⟨_, rfl⟩
    obtain ⟨bytes, encoded⟩ := encoded
    obtain ⟨cut, extended⟩ :=
      (decode_cut_or_extended (.submit .third) (bodyOf bytes)).1 _ (decode_encode encoded)
    have proper : (bodyOf bytes).dropLast ≠ bodyOf bytes := by
      intro same
      obtain ⟨fields, -, rfl⟩ := encode_eq_ok.mp encoded
      have length := congrArg List.length same
      simp only [bodyOf_frame, List.length_dropLast, List.length_append, length_word] at length
      omega
    exact ⟨bytes, encoded, cut _ (List.dropLast_prefix _) proper, extended [0] (by simp)⟩
  · exact ((decode_cut_or_extended .activeTestResponse [0, 0, 0, 1, 9, 8, 7]).2.1 2 rfl).2.2
  · exact (decode_cut_or_extended .connect [0, 0, 0, 1, 0xff, 0, 0, 0, 0, 0]).2.2.1 _ rfl
      (.inl ⟨_, rfl⟩) [1, 2, 3]
  · exact (decode_cut_or_extended .connect [0, 0, 0]).2.2.2 "seq_id" 4 3 rfl [0, 0] ⟨[0], rfl⟩

end Packet

end Cmpp
