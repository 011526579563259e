import Cmpp.Text

/-!
# The bytes of padded text

NUL is the only character whose UTF-8 bytes contain a zero byte (`zero_mem_utf8EncodeChar`). So
taking the zero bytes off the end of a padded text takes off whole NUL characters and never splits
another one (`unpad_utf8`), and the zero bytes taken off are those that padding puts back
(`pad_unpad`).
-/

namespace Cmpp

/-- Whether the last character of a text is NUL. -/
def EndsInNul (text : String) : Prop := text.toList.getLast? = some '\x00'

section Trailing

variable {α : Type} {test : α → Bool}

/-- If something is left of the back, then the front is left whole. -/
theorem dropTrailing_front (front back : List α) :
    dropTrailing test (front ++ back) =
      if dropTrailing test back = [] then dropTrailing test front
      else front ++ dropTrailing test back := by
  induction front with
  | nil => split <;> simp_all [dropTrailing]
  | cons first front ih =>
    rw [List.cons_append, dropTrailing, ih]
    by_cases gone : dropTrailing test back = []
    · simp only [gone, if_true]
      rfl
    · simp only [gone, if_false]
      split
      · rename_i empty
        exact absurd (List.append_eq_nil_iff.mp empty).2 gone
      · rfl

/-- Nothing is left of elements that all satisfy the test. -/
theorem dropTrailing_eq_nil {items : List α} (tested : ∀ item ∈ items, test item) :
    dropTrailing test items = [] := by
  induction items with
  | nil => rfl
  | cons first rest ih =>
    rw [dropTrailing, ih fun item inside => tested item (List.mem_cons_of_mem _ inside)]
    simp [tested first List.mem_cons_self]

/-- A list is left whole if its last element fails the test. -/
theorem dropTrailing_concat {items : List α} {last : α} (failed : ¬test last) :
    dropTrailing test (items ++ [last]) = items ++ [last] := by
  have kept : dropTrailing test [last] = [last] := by simp [dropTrailing, failed]
  rw [dropTrailing_front, kept, if_neg (List.cons_ne_nil _ _)]

/-- A list whose last element, if any, fails the test is left whole. -/
theorem dropTrailing_eq_self {items : List α}
    (failed : ∀ last, items.getLast? = some last → ¬test last) :
    dropTrailing test items = items := by
  rcases List.eq_nil_or_concat items with rfl | ⟨front, last, rfl⟩
  · rfl
  · rw [List.concat_eq_append] at failed ⊢
    exact dropTrailing_concat (failed last List.getLast?_concat)

/-- When one thing is dropped from the end, what is dropped is that thing again and again. -/
theorem dropTrailing_append_replicate [BEq α] [LawfulBEq α] (filler : α) (items : List α) :
    ∃ count, items = dropTrailing (· == filler) items ++ List.replicate count filler := by
  obtain ⟨dropped, whole, tested⟩ := dropTrailing_append (· == filler) items
  have same : dropped = List.replicate dropped.length filler :=
    List.eq_replicate_iff.mpr ⟨rfl, fun item inside => eq_of_beq (tested item inside)⟩
  exact ⟨dropped.length, by rw [← same, ← whole]⟩

end Trailing

/-- Only zero bytes are taken off the end. -/
theorem unpad_append_zeros (bytes : Bytes) :
    ∃ count, bytes = unpad bytes ++ List.replicate count 0 :=
  dropTrailing_append_replicate 0 bytes

/-- Padding is taken off again. -/
@[simp] theorem unpad_pad (width : Nat) (bytes : Bytes) :
    unpad (pad width bytes) = unpad bytes := by
  have zeros : dropTrailing (· == 0) (List.replicate (width - bytes.length) (0 : UInt8)) = [] :=
    dropTrailing_eq_nil fun item inside => by simp [List.eq_of_mem_replicate inside]
  rw [unpad, pad, dropTrailing_front, zeros, if_pos rfl, unpad]

/-- Bytes that fill a width are padded to themselves after their zero bytes have been taken off. -/
theorem pad_unpad {width : Nat} {bytes : Bytes} (fills : bytes.length = width) :
    pad width (unpad bytes) = bytes := by
  obtain ⟨count, whole⟩ := unpad_append_zeros bytes
  have length := congrArg List.length whole
  rw [List.length_append, List.length_replicate, fills] at length
  have missing : width - (unpad bytes).length = count := by omega
  rw [pad, missing, ← whole]

/-- Taking zero bytes off makes nothing longer. -/
theorem length_unpad_le (bytes : Bytes) : (unpad bytes).length ≤ bytes.length := by
  obtain ⟨count, whole⟩ := unpad_append_zeros bytes
  have length := congrArg List.length whole
  rw [List.length_append] at length
  omega

/-- The bytes of a text are those of its characters, one after another. -/
theorem utf8_eq_flatMap (text : String) :
    utf8 text = text.toList.flatMap String.utf8EncodeChar := by
  rw [utf8, ← String.utf8Encode_toList, List.utf8Encode, List.data_toByteArray]

/-- NUL is the only character with a zero byte in its UTF-8. -/
theorem zero_mem_utf8EncodeChar {character : Char}
    (zero : (0 : UInt8) ∈ String.utf8EncodeChar character) : character = '\x00' := by
  simp only [String.utf8EncodeChar] at zero
  repeat' split at zero
  all_goals
    simp only [List.mem_cons, List.not_mem_nil, or_false, ← UInt8.toNat_inj,
      UInt8.toNat_ofNat', UInt8.toNat_zero] at zero
  · apply Char.ext
    apply UInt32.toNat_inj.mp
    rw [show '\x00'.val.toNat = 0 from rfl]
    omega
  all_goals omega

/-- Taking the zero bytes off the end of characters takes off the NUL characters at the end. -/
theorem unpad_flatMap (characters : List Char) :
    unpad (characters.flatMap String.utf8EncodeChar) =
      (dropTrailing (· == '\x00') characters).flatMap String.utf8EncodeChar := by
  induction characters with
  | nil => rfl
  | cons first rest ih =>
    rw [unpad] at ih ⊢
    rw [List.flatMap_cons, dropTrailing_front, ih, dropTrailing]
    cases dropTrailing (· == '\x00') rest with
    | nil =>
      simp only [List.flatMap_nil, if_true]
      by_cases nul : first = '\x00'
      · subst nul
        rfl
      · simp only [beq_iff_eq, nul, if_false, List.flatMap_singleton]
        apply dropTrailing_eq_self
        intro last found zero
        rw [beq_iff_eq] at zero
        exact nul (zero_mem_utf8EncodeChar (zero ▸ List.mem_of_getLast? found))
    | cons kept others =>
      simp [String.utf8EncodeChar_ne_nil]

/-- What is left of a text's bytes without the zero bytes at the end is the trimmed text. -/
theorem unpad_utf8 (text : String) : unpad (utf8 text) = utf8 (trimmed text) := by
  rw [utf8_eq_flatMap, unpad_flatMap, utf8_eq_flatMap, trimmed, String.toList_ofList]

/-- A text that does not end in NUL has nothing to be trimmed. -/
theorem trimmed_eq_self {text : String} (clean : ¬EndsInNul text) : trimmed text = text := by
  have kept : dropTrailing (· == '\x00') text.toList = text.toList := by
    apply dropTrailing_eq_self
    intro last found nul
    rw [beq_iff_eq] at nul
    subst nul
    exact clean found
  rw [trimmed, kept, String.ofList_toList]

/-- The bytes of a text are read back as that text. -/
theorem ofUtf8?_utf8 (text : String) : ofUtf8? (utf8 text) = some text :=
  ofUtf8?_eq_some_iff.mpr rfl

end Cmpp
