/-!
# Addresses

The address of one end of a stream is a host and a port. A host of version 4 is written as four
decimal numbers, a host of version 6 as eight hexadecimal groups between brackets, perhaps with the
zone in which it is meant. An address may be read from any of its spellings, but is always written
in one and the same: numbers without leading zeros, the longest run of two or more zero groups as
`::`, and a host that stands for one of version 4 with its last two groups as such a host.
-/

namespace Cmpp

/-- A host of version 4: four bytes, the most significant first. -/
structure HostV4 where
  /-- The first number. -/
  first : UInt8
  /-- The second number. -/
  second : UInt8
  /-- The third number. -/
  third : UInt8
  /-- The last number. -/
  fourth : UInt8
  deriving DecidableEq

/-- A host of version 6: eight groups of 16 bits, the most significant first. -/
abbrev HostV6 := { groups : List UInt16 // groups.length = 8 }

/-- The address of one end of a stream. -/
inductive Address
  /-- A host of version 4 with a port. -/
  | v4 (host : HostV4) (port : UInt16)
  /-- A host of version 6 with its zone, which is zero if none is meant, and a port. -/
  | v6 (host : HostV6) (zone : UInt32) (port : UInt16)
  deriving DecidableEq

/-! ## Writing -/

/-- A host of version 4 as decimal numbers. -/
def HostV4.render (host : HostV4) : String :=
  ".".intercalate ([host.first, host.second, host.third, host.fourth].map toString)

/-- The two groups that stand for a host of version 4 in one of version 6. -/
def HostV4.groups (host : HostV4) : List UInt16 :=
  [host.first.toUInt16 * 256 + host.second.toUInt16,
    host.third.toUInt16 * 256 + host.fourth.toUInt16]

/-- The host of version 4 that two groups stand for. -/
def HostV4.ofGroups (high low : UInt16) : HostV4 :=
  ⟨(high / 256).toUInt8, high.toUInt8, (low / 256).toUInt8, low.toUInt8⟩

/-- Groups as hexadecimal numbers. -/
def HostV6.renderGroups (groups : List UInt16) : String :=
  ":".intercalate (groups.map fun group => String.ofList (Nat.toDigits 16 group.toNat))

/-- How many zero groups stand at the front. -/
def HostV6.leadingZeros (groups : List UInt16) : Nat := (groups.takeWhile (· == 0)).length

/-- Where the longest run of zero groups starts, the first one of those equally long, and how long
it is. -/
def HostV6.longestZeros (groups : List UInt16) : Nat × Nat :=
  (List.range groups.length).foldl (fun longest start =>
    let length := HostV6.leadingZeros (groups.drop start)
    if longest.2 < length then (start, length) else longest) (0, 0)

/-- A host of version 6 as it is written between brackets. -/
def HostV6.render (host : HostV6) : String :=
  match host.val with
  | [0, 0, 0, 0, 0, 0xffff, high, low] => "::ffff:" ++ (HostV4.ofGroups high low).render
  | groups =>
    let (start, length) := longestZeros groups
    if 1 < length then
      renderGroups (groups.take start) ++ "::" ++ renderGroups (groups.drop (start + length))
    else renderGroups groups

/-- An address as it is written. -/
def Address.render : Address → String
  | v4 host port => host.render ++ ":" ++ toString port
  | v6 host zone port =>
    let zoneText := if zone = 0 then "" else "%" ++ toString zone
    "[" ++ HostV6.render host ++ zoneText ++ "]:" ++ toString port

/-! ## Reading

Every reader takes what it reads off the front and returns the characters after it.
-/

namespace Address

/-- The value of a digit in a radix of at most sixteen. -/
def digitValue? (radix : Nat) (digit : Char) : Option Nat :=
  let value :=
    if digit.isDigit then digit.toNat - '0'.toNat
    else if 'a' ≤ digit ∧ digit ≤ 'f' then digit.toNat - 'a'.toNat + 10
    else if 'A' ≤ digit ∧ digit ≤ 'F' then digit.toNat - 'A'.toNat + 10
    else radix
  if value < radix then some value else none

/-- Read a number below a bound, of all the digits there are. -/
def takeNumber (radix bound : Nat) (text : List Char) : Option (Nat × List Char) :=
  let digits := text.takeWhile fun letter => (digitValue? radix letter).isSome
  let value := (digits.filterMap (digitValue? radix)).foldl (fun value digit =>
    value * radix + digit) 0
  if digits = [] ∨ bound ≤ value then none else some (value, text.drop digits.length)

/-- Take a character off the front. -/
def takeMark (mark : Char) : List Char → Option (List Char)
  | [] => none
  | letter :: rest => if letter = mark then some rest else none

/-- Read one number of a host of version 4: no leading zeros are allowed. -/
def takeByte (text : List Char) : Option (UInt8 × List Char) := do
  let (value, rest) ← takeNumber 10 256 text
  if text.head? = some '0' ∧ rest.length + 1 < text.length then none
  else some (UInt8.ofNat value, rest)

/-- Read a host of version 4. -/
def takeHostV4 (text : List Char) : Option (HostV4 × List Char) := do
  let (first, text) ← takeByte text
  let (second, text) ← takeByte (← takeMark '.' text)
  let (third, text) ← takeByte (← takeMark '.' text)
  let (fourth, text) ← takeByte (← takeMark '.' text)
  some (⟨first, second, third, fourth⟩, text)

/-- Read one group of a host of version 6: at most four digits. -/
def takeGroup (text : List Char) : Option (UInt16 × List Char) := do
  let (value, rest) ← takeNumber 16 65536 text
  if rest.length + 4 < text.length then none else some (UInt16.ofNat value, rest)

/-- Read up to so many groups with colons between them, stopping where there is no further one. The
last two may be written as a host of version 4; whether they are is told along with them. -/
def takeGroups (leading : Bool) : (limit : Nat) → List Char → List UInt16 × Bool × List Char
  | 0, text => ([], false, text)
  | limit + 1, text =>
    match if leading then some text else takeMark ':' text with
    | none => ([], false, text)
    | some rest =>
      match if limit = 0 then none else takeHostV4 rest with
      | some (host, rest) => (host.groups, true, rest)
      | none =>
        match takeGroup rest with
        | none => ([], false, text)
        | some (group, rest) =>
          let (groups, dotted, rest) := takeGroups false limit rest
          (group :: groups, dotted, rest)

/-- No more groups are read than were asked for. -/
theorem length_takeGroups_le (leading : Bool) (limit : Nat) (text : List Char) :
    (takeGroups leading limit text).1.length ≤ limit := by
  induction limit generalizing leading text with
  | zero => exact Nat.le_refl _
  | succ limit ih =>
    rw [takeGroups]
    split
    · exact Nat.zero_le _
    · split
      · rename_i found
        split at found
        · contradiction
        · simp only [HostV4.groups, List.length_cons, List.length_nil]
          omega
      · split
        · exact Nat.zero_le _
        · exact Nat.succ_le_succ (ih ..)

/-- Groups before and after a run of zeros that fills the host up. -/
def fillZeros (before after : List UInt16)
    (fits : before.length + after.length ≤ 8) : HostV6 :=
  ⟨before ++ List.replicate (8 - before.length - after.length) 0 ++ after, by
    simp only [List.length_append, List.length_replicate]
    omega⟩

/-- Read a host of version 6: eight groups, or fewer with a `::` for one or more zero groups. -/
def takeHostV6 (text : List Char) : Option (HostV6 × List Char) :=
  let before := takeGroups true 8 text
  if eight : before.1.length = 8 then some (⟨before.1, eight⟩, before.2.2)
  else if before.2.1 then none
  else do
    let rest ← takeMark ':' (← takeMark ':' before.2.2)
    let after := takeGroups true (7 - before.1.length) rest
    have fits : before.1.length + after.1.length ≤ 8 := by
      have front : before.1.length ≤ 8 := length_takeGroups_le true 8 text
      have back : after.1.length ≤ 7 - before.1.length := length_takeGroups_le ..
      omega
    some (fillZeros before.1 after.1 fits, after.2.2)

/-- Read a port. -/
def takePort (text : List Char) : Option (UInt16 × List Char) := do
  let (value, rest) ← takeNumber 10 65536 (← takeMark ':' text)
  some (UInt16.ofNat value, rest)

/-- Read a zone, which may be missing. -/
def takeZone (text : List Char) : UInt32 × List Char :=
  match (takeMark '%' text).bind (takeNumber 10 4294967296) with
  | some (value, rest) => (UInt32.ofNat value, rest)
  | none => (0, text)

/-- Read an address with a host of version 4. -/
def takeV4 (text : List Char) : Option (Address × List Char) := do
  let (host, text) ← takeHostV4 text
  let (port, text) ← takePort text
  some (.v4 host port, text)

/-- Read an address with a host of version 6. -/
def takeV6 (text : List Char) : Option (Address × List Char) := do
  let (host, text) ← takeHostV6 (← takeMark '[' text)
  let (zone, text) := takeZone text
  let (port, text) ← takePort (← takeMark ']' text)
  some (.v6 host zone port, text)

/-- The address that a whole text spells. -/
def parse? (text : String) : Option Address :=
  match takeV4 text.toList <|> takeV6 text.toList with
  | some (address, []) => some address
  | _ => none

end Address

end Cmpp
