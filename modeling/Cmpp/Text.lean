import Cmpp.Bytes

/-!
# Text in fixed-width fields

A text field holds UTF-8 followed by as many zero bytes as fill its width. `pad` writes the zero
bytes and `unpad` takes all of them away again, those the text itself ended in among them; so a
field gives back its text without the NUL characters at the end of it (`trimmed`).
-/

namespace Cmpp

/-- The UTF-8 bytes of a text. -/
def utf8 (text : String) : Bytes := text.toByteArray.data.toList

/-- The text with the given UTF-8 bytes, when they are well-formed. -/
def ofUtf8? (bytes : Bytes) : Option String := String.fromUTF8? ⟨bytes.toArray⟩

/-- A list without the elements at its end that satisfy the test. -/
def dropTrailing {α : Type} (test : α → Bool) : List α → List α
  | [] => []
  | first :: rest =>
    match dropTrailing test rest with
    | [] => if test first then [] else [first]
    | kept => first :: kept

/-- Fill up with zero bytes to a width. -/
def pad (width : Nat) (bytes : Bytes) : Bytes :=
  bytes ++ List.replicate (width - bytes.length) 0

/-- Take all zero bytes off the end. -/
def unpad (bytes : Bytes) : Bytes := dropTrailing (· == 0) bytes

/-- A text without the NUL characters at its end. -/
def trimmed (text : String) : String :=
  String.ofList (dropTrailing (· == '\x00') text.toList)

/-- What is dropped from the end satisfies the test. -/
theorem dropTrailing_append {α : Type} (test : α → Bool) (items : List α) :
    ∃ dropped, items = dropTrailing test items ++ dropped ∧ ∀ item ∈ dropped, test item := by
  induction items with
  | nil => exact ⟨[], rfl, by simp⟩
  | cons first rest ih =>
    obtain ⟨dropped, whole, tested⟩ := ih
    rw [dropTrailing]
    split
    · rename_i empty
      rw [empty, List.nil_append] at whole
      subst whole
      by_cases met : test first
      · exact ⟨first :: rest, by simp [met], by simpa [met] using tested⟩
      · exact ⟨rest, by simp [met], tested⟩
    · exact ⟨dropped, by rw [List.cons_append, ← whole], tested⟩

/-- Padding gives exactly the width, when the bytes fit it. -/
theorem length_pad {width : Nat} {bytes : Bytes} (fits : bytes.length ≤ width) :
    (pad width bytes).length = width := by
  simp only [pad, List.length_append, List.length_replicate]
  omega

/-- Well-formed bytes are read as the text they are the bytes of, and only then. -/
theorem ofUtf8?_eq_some_iff {bytes : Bytes} {text : String} :
    ofUtf8? bytes = some text ↔ utf8 text = bytes := by
  unfold ofUtf8? String.fromUTF8? utf8
  constructor
  · intro read
    split at read
    · cases read
      rfl
    · contradiction
  · rintro rfl
    have valid := text.isValidUTF8
    simp only [Array.toArray_toList]
    rw [dif_pos valid]
    rfl

end Cmpp
