import Mathlib
import Greeter.Greeting

/-!
# Messages and their text

A message is seven bytes; text is a well-formed UTF-8 byte string. This file relates the two
directions between them.

* `Message.ofString?_checks_length_then_ascii` — parsing text measures it in UTF-8 bytes: text
  that is not seven bytes long is refused as `wrongLength` whatever its characters, seven bytes
  with one of `0x80` or above are refused as `notAscii`, and otherwise the message is exactly the
  text's bytes, never padded, cut or changed.
* `Message.text_round_trip` — a message reads back as the empty text exactly when its bytes are
  not well-formed UTF-8, and otherwise as the text whose bytes they are. Parsing that text gives
  the message back exactly when all seven bytes are ASCII; else it fails as `wrongLength` (the
  empty text) or `notAscii` (well-formed text with a multi-byte character). A message parsed from
  text reads back as that text.

Well-formed UTF-8 is the image of the encoder of Unicode scalar values (`ByteArray.IsValidUTF8`),
which rules out lone continuation bytes, overlong forms, surrogates, values above U+10FFFF and
truncated sequences. Seven bytes never encode the empty text, which is what makes the empty text
an unambiguous answer for bytes that are not well-formed.
-/

/-! ## Byte arrays as lists -/

namespace ByteArray

theorem toList_loop (bs : ByteArray) (i : Nat) (r : List UInt8) :
    toList.loop bs i r = r.reverse ++ bs.data.toList.drop i := by
  -- the loop conses the bytes from index `i` onto `r` in reverse, then reverses
  fun_induction toList.loop bs i r with
  | case1 i r hi ih =>
    have hi' : i < bs.data.size := by simpa using hi
    rw [ih]
    simp [List.drop_eq_getElem_cons (show i < bs.data.toList.length by simpa using hi), get!,
      getElem!_pos bs.data i hi']
  | case2 i r hi =>
    simp [List.drop_eq_nil_of_le (show bs.data.toList.length ≤ i by simp; omega)]

theorem toList_eq_data_toList (bs : ByteArray) : bs.toList = bs.data.toList := by
  simp [toList, toList_loop]

theorem length_toList (bs : ByteArray) : bs.toList.length = bs.size := by
  simp [toList_eq_data_toList]

theorem toByteArray_toList (bs : ByteArray) : bs.toList.toByteArray = bs := by
  ext1
  simp [toList_eq_data_toList, List.data_toByteArray]

end ByteArray

theorem List.toList_toByteArray (l : List UInt8) : l.toByteArray.toList = l := by
  rw [ByteArray.toList_eq_data_toList, List.toList_data_toByteArray]

namespace Greeter.Message

/-! ## ASCII bytes are well-formed UTF-8 -/

theorem utf8EncodeChar_ofUInt8 {b : UInt8} (h : b < 0x80) :
    String.utf8EncodeChar (Char.ofUInt8 b) = [b] := by
  have hsize : (Char.ofUInt8 b).utf8Size = 1 := by
    have hb : b.toNat < 128 := UInt8.lt_iff_toNat_lt.1 h
    rw [Char.utf8Size_eq_one_iff, UInt32.le_iff_toNat_le]
    show b.toUInt32.toNat ≤ 127
    rw [UInt8.toNat_toUInt32]
    omega
  rw [String.utf8EncodeChar_eq_singleton hsize]
  simp [Char.ofUInt8]

/-- Bytes below `0x80` are the UTF-8 encoding of the characters with those codes. -/
theorem isValidUTF8_of_forall_lt {l : List UInt8} (h : ∀ b ∈ l, b < 0x80) :
    l.toByteArray.IsValidUTF8 := by
  refine ⟨l.map Char.ofUInt8, ?_⟩
  have hencode : (l.map Char.ofUInt8).flatMap String.utf8EncodeChar = l := by
    induction l with
    | nil => rfl
    | cons b l ih =>
      simp only [List.map_cons, List.flatMap_cons, utf8EncodeChar_ofUInt8 (h b (by simp))]
      rw [ih (fun b hb => h b (by simp [hb]))]
      rfl
  rw [List.utf8Encode, hencode]

theorem exists_le_of_not_forall_lt {l : List UInt8} (h : ¬ ∀ b ∈ l, b < 0x80) :
    ∃ b ∈ l, 0x80 ≤ b :=
  Classical.byContradiction fun hno => h fun b hb => UInt8.not_le.1 fun hge => hno ⟨b, hb, hge⟩

/-! ## Parsing text -/

theorem length_bytes_toUTF8 (s : String) : s.toUTF8.toList.length = s.utf8ByteSize := by
  rw [ByteArray.length_toList, String.toUTF8_eq_toByteArray, String.utf8ByteSize]

theorem all_isAscii_iff (l : List UInt8) :
    (l.all fun b => decide (IsAscii b)) = true ↔ ∀ b ∈ l, b < 0x80 := by
  simp only [List.all_eq_true, decide_eq_true_eq]
  rfl

theorem ofString?_eq_dite (s : String) :
    ofString? s =
      if h : s.toUTF8.toList.length = 7 then
        if ∀ b ∈ s.toUTF8.toList, b < 0x80 then .ok ⟨s.toUTF8.toList, h⟩ else .error .notAscii
      else .error .wrongLength := by
  rw [String.toUTF8_eq_toByteArray]
  simp only [ofString?, all_isAscii_iff]

theorem ofString?_of_utf8ByteSize_ne {s : String} (h : s.utf8ByteSize ≠ 7) :
    ofString? s = .error .wrongLength := by
  rw [ofString?_eq_dite, dif_neg (by rw [length_bytes_toUTF8]; exact h)]

theorem ofString?_of_exists_le {s : String} (h7 : s.utf8ByteSize = 7)
    (h : ∃ b ∈ s.toUTF8.toList, 0x80 ≤ b) : ofString? s = .error .notAscii := by
  obtain ⟨b, hb, hge⟩ := h
  have hnot : ¬ ∀ b ∈ s.toUTF8.toList, b < 0x80 := fun hall =>
    absurd (hall b hb) (UInt8.not_lt.2 hge)
  rw [ofString?_eq_dite, dif_pos (by rw [length_bytes_toUTF8]; exact h7), if_neg hnot]

theorem ofString?_of_forall_lt {s : String} (h7 : s.utf8ByteSize = 7)
    (h : ∀ b ∈ s.toUTF8.toList, b < 0x80) :
    ofString? s = .ok ⟨s.toUTF8.toList, by rw [length_bytes_toUTF8]; exact h7⟩ := by
  rw [ofString?_eq_dite, dif_pos (by rw [length_bytes_toUTF8]; exact h7), if_pos h]

theorem ofString?_eq_wrongLength_iff (s : String) :
    ofString? s = .error .wrongLength ↔ s.utf8ByteSize ≠ 7 := by
  by_cases h7 : s.utf8ByteSize = 7
  · by_cases hascii : ∀ b ∈ s.toUTF8.toList, b < 0x80
    · rw [ofString?_of_forall_lt h7 hascii]
      simp [h7]
    · rw [ofString?_of_exists_le h7 (exists_le_of_not_forall_lt hascii)]
      simp [h7]
  · rw [ofString?_of_utf8ByteSize_ne h7]
    simp [h7]

theorem ofString?_eq_notAscii_iff (s : String) :
    ofString? s = .error .notAscii ↔ s.utf8ByteSize = 7 ∧ ∃ b ∈ s.toUTF8.toList, 0x80 ≤ b := by
  by_cases h7 : s.utf8ByteSize = 7
  · by_cases hascii : ∀ b ∈ s.toUTF8.toList, b < 0x80
    · rw [ofString?_of_forall_lt h7 hascii]
      exact iff_of_false (by simp) fun ⟨_, b, hb, hge⟩ => UInt8.not_lt.2 hge (hascii b hb)
    · have hex := exists_le_of_not_forall_lt hascii
      rw [ofString?_of_exists_le h7 hex]
      exact iff_of_true rfl ⟨h7, hex⟩
  · rw [ofString?_of_utf8ByteSize_ne h7]
    exact iff_of_false (by simp) fun ⟨h, _⟩ => h7 h

theorem ofString?_eq_ok_iff (s : String) (m : Message) :
    ofString? s = .ok m ↔
      s.utf8ByteSize = 7 ∧ (∀ b ∈ s.toUTF8.toList, b < 0x80) ∧ m.bytes = s.toUTF8.toList := by
  by_cases h7 : s.utf8ByteSize = 7
  · by_cases hascii : ∀ b ∈ s.toUTF8.toList, b < 0x80
    · rw [ofString?_of_forall_lt h7 hascii]
      constructor
      · rintro ⟨⟩
        exact ⟨h7, hascii, rfl⟩
      · rintro ⟨-, -, hm⟩
        exact congrArg Except.ok (Message.ext hm.symm)
    · rw [ofString?_of_exists_le h7 (exists_le_of_not_forall_lt hascii)]
      exact iff_of_false (by simp) fun ⟨_, h, _⟩ => hascii h
  · rw [ofString?_of_utf8ByteSize_ne h7]
    exact iff_of_false (by simp) fun ⟨h, _⟩ => h7 h

/-- **Parsing checks the length in bytes, then the bytes.** Text that is not seven UTF-8 bytes
long is refused as `wrongLength`, whatever its characters; seven bytes with one of `0x80` or
above are refused as `notAscii`; any other text is accepted, and the message is its bytes. -/
theorem ofString?_checks_length_then_ascii (s : String) :
    (ofString? s = .error .wrongLength ↔ s.utf8ByteSize ≠ 7) ∧
    (ofString? s = .error .notAscii ↔ s.utf8ByteSize = 7 ∧ ∃ b ∈ s.toUTF8.toList, 0x80 ≤ b) ∧
    (∀ m, ofString? s = .ok m ↔
      s.utf8ByteSize = 7 ∧ (∀ b ∈ s.toUTF8.toList, b < 0x80) ∧ m.bytes = s.toUTF8.toList) :=
  ⟨ofString?_eq_wrongLength_iff s, ofString?_eq_notAscii_iff s, ofString?_eq_ok_iff s⟩

/-! ## Reading a message as text -/

theorem fromUTF8?_of_isValidUTF8 {bs : ByteArray} (h : bs.IsValidUTF8) :
    String.fromUTF8? bs = some (String.fromUTF8 bs h) := dif_pos h

theorem toByteArray_text {m : Message} (h : m.bytes.toByteArray.IsValidUTF8) :
    m.text.toByteArray = m.bytes.toByteArray := by
  rw [text, fromUTF8?_of_isValidUTF8 h]
  rfl

theorem text_of_not_isValidUTF8 {m : Message} (h : ¬ m.bytes.toByteArray.IsValidUTF8) :
    m.text = "" := by
  rw [text, String.fromUTF8?, dif_neg h]
  rfl

theorem toUTF8_text {m : Message} (h : m.bytes.toByteArray.IsValidUTF8) :
    m.text.toUTF8.toList = m.bytes := by
  rw [String.toUTF8_eq_toByteArray, toByteArray_text h, List.toList_toByteArray]

theorem utf8ByteSize_text {m : Message} (h : m.bytes.toByteArray.IsValidUTF8) :
    m.text.utf8ByteSize = 7 := by
  rw [← length_bytes_toUTF8, toUTF8_text h, m.length_bytes]

/-- The empty text is the answer for bytes that are not well-formed, and only for them: the text
of well-formed bytes is seven bytes long. -/
theorem text_eq_empty_iff (m : Message) : m.text = "" ↔ ¬ m.bytes.toByteArray.IsValidUTF8 := by
  constructor
  · intro hempty hvalid
    have hsize := utf8ByteSize_text hvalid
    rw [hempty] at hsize
    cases hsize
  · exact text_of_not_isValidUTF8

theorem text_of_ofString? {s : String} {m : Message} (h : ofString? s = .ok m) : m.text = s := by
  obtain ⟨-, -, hm⟩ := (ofString?_eq_ok_iff s m).1 h
  have hbytes : m.bytes.toByteArray = s.toByteArray := by
    rw [hm, String.toUTF8_eq_toByteArray, ByteArray.toByteArray_toList]
  -- the message's bytes are the text's, so they are well-formed and read back as the text
  have hvalid : m.bytes.toByteArray.IsValidUTF8 := hbytes ▸ s.isValidUTF8
  exact String.toByteArray_inj.1 ((toByteArray_text hvalid).trans hbytes)

theorem ofString?_text_eq_ok_iff (m : Message) :
    ofString? m.text = .ok m ↔ ∀ b ∈ m.bytes, b < 0x80 := by
  constructor
  · intro h
    obtain ⟨-, hascii, hm⟩ := (ofString?_eq_ok_iff m.text m).1 h
    rw [hm]
    exact hascii
  · intro hascii
    have hvalid := isValidUTF8_of_forall_lt hascii
    refine (ofString?_eq_ok_iff m.text m).2 ⟨utf8ByteSize_text hvalid, ?_, (toUTF8_text hvalid).symm⟩
    rw [toUTF8_text hvalid]
    exact hascii

theorem ofString?_text_of_not_isValidUTF8 {m : Message} (h : ¬ m.bytes.toByteArray.IsValidUTF8) :
    ofString? m.text = .error .wrongLength := by
  rw [text_of_not_isValidUTF8 h]
  exact ofString?_of_utf8ByteSize_ne (by decide)

theorem ofString?_text_of_exists_le {m : Message} (h : m.bytes.toByteArray.IsValidUTF8)
    (hex : ∃ b ∈ m.bytes, 0x80 ≤ b) : ofString? m.text = .error .notAscii := by
  rw [← toUTF8_text h] at hex
  exact ofString?_of_exists_le (utf8ByteSize_text h) hex

/-- **Text round trip.** For every message: its text is empty exactly when its bytes are not
well-formed UTF-8, and is otherwise the text whose bytes they are. Parsing its text gives it back
exactly when its bytes are ASCII, and otherwise fails as `wrongLength` for bytes that are not
well-formed and as `notAscii` for well-formed bytes with a multi-byte character. A message parsed
from text reads back as that text. -/
theorem text_round_trip :
    (∀ m : Message,
      (m.text = "" ↔ ¬ m.bytes.toByteArray.IsValidUTF8) ∧
      (m.bytes.toByteArray.IsValidUTF8 → m.text.toUTF8.toList = m.bytes) ∧
      (ofString? m.text = .ok m ↔ ∀ b ∈ m.bytes, b < 0x80) ∧
      (¬ m.bytes.toByteArray.IsValidUTF8 → ofString? m.text = .error .wrongLength) ∧
      (m.bytes.toByteArray.IsValidUTF8 → (∃ b ∈ m.bytes, 0x80 ≤ b) →
        ofString? m.text = .error .notAscii)) ∧
    (∀ (s : String) (m : Message), ofString? s = .ok m → m.text = s) :=
  ⟨fun m => ⟨text_eq_empty_iff m, toUTF8_text, ofString?_text_eq_ok_iff m,
      ofString?_text_of_not_isValidUTF8, ofString?_text_of_exists_le⟩,
    fun _ _ => text_of_ofString?⟩

/-- `héllo!`: seven bytes of well-formed UTF-8 with a two-byte character. -/
def accented : Message := ⟨[104, 195, 169, 108, 108, 111, 33], rfl⟩

/-- Seven `0xFF` bytes, which are no UTF-8 at all. -/
def allOnes : Message := ⟨[255, 255, 255, 255, 255, 255, 255], rfl⟩

/-- The text of `héllo!` has its bytes but is refused when parsed back, as not ASCII; the text of
seven `0xFF` bytes is refused for its length; `@HELLO!` parses to the greeting's message, which
reads back as `@HELLO!`. -/
theorem round_trip_of_accented_and_invalid :
    (accented.bytes.toByteArray.IsValidUTF8 ∧ accented.text.toUTF8.toList = accented.bytes) ∧
    (¬ allOnes.bytes.toByteArray.IsValidUTF8 ∧ ofString? allOnes.text = .error .wrongLength) ∧
    ((∃ b ∈ accented.bytes, 0x80 ≤ b) ∧ ofString? accented.text = .error .notAscii) ∧
    (ofString? "@HELLO!" = .ok Greeting.helloLook.message ∧
      Greeting.helloLook.message.text = "@HELLO!") := by
  have hvalid : accented.bytes.toByteArray.IsValidUTF8 := by decide
  have hinvalid : ¬ allOnes.bytes.toByteArray.IsValidUTF8 := by decide
  have hwide : ∃ b ∈ accented.bytes, 0x80 ≤ b := ⟨195, by decide, by decide⟩
  have hparse : ofString? "@HELLO!" = .ok Greeting.helloLook.message := by decide +kernel
  have hround := text_round_trip
  exact ⟨⟨hvalid, (hround.1 accented).2.1 hvalid⟩, ⟨hinvalid, (hround.1 allOnes).2.2.2.1 hinvalid⟩,
    ⟨hwide, (hround.1 accented).2.2.2.2 hvalid hwide⟩, ⟨hparse, hround.2 _ _ hparse⟩⟩

end Greeter.Message
