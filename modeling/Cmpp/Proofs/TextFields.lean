import Cmpp.Proofs.Records

/-!
# Text fields

A text field of any width holds the bytes of a text and zero bytes behind them. Zero bytes are the
bytes of NUL characters, so bytes are UTF-8 without the zero bytes at their end just if they are
UTF-8 as they stand (`isUtf8_unpad_iff`). What fills a field is therefore read as the text that the
whole of it is the bytes of, trimmed, and is refused if there is no such text
(`decodeText_append`).
-/

namespace Cmpp

/-- The bytes are those of some text. -/
def IsUtf8 (bytes : Bytes) : Prop := ∃ text, utf8 text = bytes

/-- A text of so many NUL characters. -/
def nuls (count : Nat) : String := String.ofList (List.replicate count '\x00')

/-- The bytes of one text after another. -/
theorem utf8_append (front back : String) : utf8 (front ++ back) = utf8 front ++ utf8 back := by
  simp only [utf8_eq_flatMap, String.toList_append, List.flatMap_append]

/-- The bytes of NUL characters are zero bytes. -/
theorem utf8_nuls (count : Nat) : utf8 (nuls count) = List.replicate count 0 := by
  rw [utf8_eq_flatMap, nuls, String.toList_ofList]
  induction count with
  | zero => rfl
  | succ count ih =>
    have zero : String.utf8EncodeChar '\x00' = [0] := by decide
    rw [List.replicate_succ, List.flatMap_cons, ih, zero, List.singleton_append,
      List.replicate_succ]

/-- What is left of a list does not end in an element that satisfies the test. -/
theorem getLast?_dropTrailing {α : Type} {test : α → Bool} {items : List α} {last : α}
    (found : (dropTrailing test items).getLast? = some last) : ¬test last := by
  induction items with
  | nil => cases found
  | cons first rest ih =>
    rw [dropTrailing] at found
    split at found
    · split at found
      · cases found
      · rename_i kept
        cases found
        exact kept
    · rename_i nonempty
      refine ih ?_
      rwa [List.getLast?_cons_of_ne_nil nonempty] at found

/-- A trimmed text does not end in NUL, and only NUL characters were taken off its end. -/
theorem trimmed_append_nuls (text : String) :
    ¬EndsInNul (trimmed text) ∧ ∃ count, text = trimmed text ++ nuls count := by
  constructor
  · intro ends
    rw [EndsInNul, trimmed, String.toList_ofList] at ends
    exact getLast?_dropTrailing ends (by simp)
  · obtain ⟨count, whole⟩ := dropTrailing_append_replicate '\x00' text.toList
    refine ⟨count, ?_⟩
    rw [trimmed, nuls, ← String.ofList_append, ← whole, String.ofList_toList]

/-- Bytes are UTF-8 without the zero bytes at their end just if they are UTF-8 as they stand. -/
theorem isUtf8_unpad_iff (bytes : Bytes) : IsUtf8 (unpad bytes) ↔ IsUtf8 bytes := by
  constructor
  · rintro ⟨text, stored⟩
    obtain ⟨count, whole⟩ := unpad_append_zeros bytes
    exact ⟨text ++ nuls count, by rw [utf8_append, utf8_nuls, stored, ← whole]⟩
  · rintro ⟨text, rfl⟩
    exact ⟨trimmed text, (unpad_utf8 text).symm⟩

/-- What fills a text field is read as the text that the whole of it is the bytes of, trimmed, and
is refused if there is none, whatever follows. -/
theorem decodeText_append (name : String) {width : Nat} {raw : Bytes} (fills : raw.length = width)
    (rest : Bytes) :
    decodeText name width (raw ++ rest) =
      match ofUtf8? raw with
      | some text => .ok (trimmed text, rest)
      | none => .error (.invalidText name) := by
  have taken := takeOctets_append name ⟨raw, fills⟩ rest
  rw [decodeText, taken]
  simp only [bind, Except.bind]
  cases whole : ofUtf8? raw with
  | some text =>
    obtain rfl := ofUtf8?_eq_some_iff.mp whole
    rw [unpad_utf8, ofUtf8?_utf8]
  | none =>
    have refused : ofUtf8? (unpad raw) = none := by
      rw [Option.eq_none_iff_forall_ne_some]
      intro text read
      obtain ⟨other, stored⟩ := (isUtf8_unpad_iff raw).mp ⟨text, ofUtf8?_eq_some_iff.mp read⟩
      rw [ofUtf8?_eq_some_iff.mpr stored] at whole
      cases whole
    rw [refused]

/-- What fills a text field is read just if the whole of it is UTF-8. -/
theorem decodeText_append_eq_ok (name : String) {width : Nat} {raw : Bytes}
    (fills : raw.length = width) {rest left : Bytes} {text : String} :
    decodeText name width (raw ++ rest) = .ok (text, left) ↔
      left = rest ∧ ∃ whole, utf8 whole = raw ∧ trimmed whole = text := by
  rw [decodeText_append name fills]
  cases whole : ofUtf8? raw with
  | some found =>
    obtain rfl := ofUtf8?_eq_some_iff.mp whole
    constructor
    · rintro ⟨⟩
      exact ⟨rfl, found, rfl, rfl⟩
    · rintro ⟨rfl, other, same, rfl⟩
      have equal : ofUtf8? (utf8 found) = some other := ofUtf8?_eq_some_iff.mpr same
      rw [ofUtf8?_utf8] at equal
      cases equal
      rfl
  | none =>
    constructor
    · rintro ⟨⟩
    · rintro ⟨-, other, same, -⟩
      rw [ofUtf8?_eq_some_iff.mpr same] at whole
      cases whole

/-- A text field of any width, under any names for writing and reading. A text whose bytes fit is
written as exactly the width, and what is written is read back as the text without the NUL
characters at its end, whatever follows, which is left. What fills the width is read just if the
whole of it is UTF-8; then exactly the width is taken off the front, and the text that was read is
written as the same bytes. -/
theorem text_field_exact (written read : String) (width : Nat) :
    (∀ text, (utf8 text).length ≤ width →
      ∃ field kept count, encodeText written width text = .ok field ∧ field.length = width ∧
        text = kept ++ nuls count ∧ ¬EndsInNul kept ∧
        ∀ rest, decodeText read width (field ++ rest) = .ok (kept, rest)) ∧
    ∀ raw rest : Bytes, raw.length = width →
      ((∃ text left, decodeText read width (raw ++ rest) = .ok (text, left)) ↔ IsUtf8 raw) ∧
      ∀ text left, decodeText read width (raw ++ rest) = .ok (text, left) →
        left = rest ∧ encodeText written width text = .ok raw := by
  refine ⟨fun text fits => ?_, fun raw rest fills => ⟨?_, fun text left decoded => ?_⟩⟩
  · obtain ⟨clean, count, whole⟩ := trimmed_append_nuls text
    refine ⟨pad width (utf8 text), trimmed text, count, encodeText_eq_ok.mpr ⟨fits, rfl⟩,
      length_pad fits, whole, clean, fun rest => ?_⟩
    exact decodeText_encodeText (encodeText_eq_ok.mpr ⟨fits, rfl⟩) rest
  · constructor
    · rintro ⟨text, left, decoded⟩
      obtain ⟨-, whole, stored, -⟩ := (decodeText_append_eq_ok read fills).mp decoded
      exact ⟨whole, stored⟩
    · rintro ⟨whole, stored⟩
      exact ⟨trimmed whole, rest,
        (decodeText_append_eq_ok read fills).mpr ⟨rfl, whole, stored, rfl⟩⟩
  · obtain ⟨rfl, whole, stored, rfl⟩ := (decodeText_append_eq_ok read fills).mp decoded
    have kept : utf8 (trimmed whole) = unpad raw := by rw [← stored, unpad_utf8]
    have fits := length_unpad_le raw
    refine ⟨rfl, encodeText_eq_ok.mpr ⟨?_, ?_⟩⟩
    · rwa [kept, ← fills]
    · rw [kept, pad_unpad fills]

/-- A field of four bytes holds a character of two bytes with a NUL ahead of it and one behind it,
which is lost. Two such characters fill the field. The first byte of such a character is refused
with zero bytes behind it. -/
theorem text_field_exact_accents :
    (∃ field kept count, encodeText "src_id" 4 "\x00\u00e9\x00" = .ok field ∧ field.length = 4 ∧
      "\x00\u00e9\x00" = kept ++ nuls count ∧ ¬EndsInNul kept ∧
      ∀ rest, decodeText "src_id" 4 (field ++ rest) = .ok (kept, rest)) ∧
    (encodeText "src_id" 4 "\u00e9\u00e9" = .ok [0xc3, 0xa9, 0xc3, 0xa9] ∧
      IsUtf8 [0xc3, 0xa9, 0xc3, 0xa9]) ∧
    ¬IsUtf8 [0xc3, 0, 0, 0] := by
  obtain ⟨fitting, filling⟩ := text_field_exact "src_id" "src_id" 4
  have decoded : decodeText "src_id" 4 ([0xc3, 0xa9, 0xc3, 0xa9] ++ [7]) =
      .ok ("\u00e9\u00e9", [7]) := rfl
  have refused : decodeText "src_id" 4 ([0xc3, 0, 0, 0] ++ []) =
      .error (.invalidText "src_id") := rfl
  obtain ⟨valid, again⟩ := filling [0xc3, 0xa9, 0xc3, 0xa9] [7] rfl
  obtain ⟨invalid, -⟩ := filling [0xc3, 0, 0, 0] [] rfl
  refine ⟨fitting "\x00\u00e9\x00" (by decide),
    ⟨(again _ _ decoded).2, valid.mp ⟨_, _, decoded⟩⟩, ?_⟩
  intro whole
  obtain ⟨text, left, read⟩ := invalid.mpr whole
  rw [refused] at read
  cases read

end Cmpp
