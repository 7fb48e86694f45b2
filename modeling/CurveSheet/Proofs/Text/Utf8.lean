/-
# Bytes that are a text

A text is read back from its bytes, also in front of bytes that are none (`decode_encode_append`),
so bytes are a text exactly if they are shown as what they are (`isText_iff`).

Every byte of a character beyond ASCII is at least `80`, and the other way round bytes from `80` on
are shown as characters beyond ASCII: the number of a started character has a least value
(`Started.least`), which the bytes that go on with it can only raise.  So a slash is a byte by itself
in a text, and bytes are shown with a slash in front only if they start with one
(`head?_decode_eq_slash_iff`).
-/

import CurveSheet.Number.Power
import CurveSheet.Text.Utf8

namespace CurveSheet
namespace Text
namespace Utf8

theorem encode_append (left right : List Char) :
    encode (left ++ right) = encode left ++ encode right := List.flatMap_append

theorem encode_cons (c : Char) (text : List Char) :
    encode (c :: text) = String.utf8EncodeChar c ++ encode text := List.flatMap_cons

/-! ### Reading a text back -/

section

variable {b value low high more : Nat} {rest : List UInt8}

/-- A byte where a character starts. -/
theorem decodeFrom_none (hb : b < 0x100) :
    decodeFrom none (UInt8.ofNat b :: rest) = (start b).1 ++ decodeFrom (start b).2 rest := by
  rw [decodeFrom, UInt8.toNat_ofNat', Nat.mod_eq_of_lt hb, step]

/-- A byte that goes on with a character. -/
theorem decodeFrom_some {started : Started} (hlow : started.low ≤ b) (hhigh : b ≤ started.high)
    (hb : b < 0x100) : decodeFrom (some started) (UInt8.ofNat b :: rest) =
      (started.next b).1 ++ decodeFrom (started.next b).2 rest := by
  rw [decodeFrom, UInt8.toNat_ofNat', Nat.mod_eq_of_lt hb, step, if_pos ⟨hlow, hhigh⟩]

/-- The last byte of a character. -/
theorem decodeFrom_last (hlow : low ≤ b) (hhigh : b ≤ high) (hb : b < 0x100) :
    decodeFrom (some ⟨value, low, high, 0⟩) (UInt8.ofNat b :: rest) =
      Char.ofNat (value * 0x40 + (b - 0x80)) :: decodeFrom none rest :=
  decodeFrom_some hlow hhigh hb

/-- A byte of a character that more come behind. -/
theorem decodeFrom_more (hlow : low ≤ b) (hhigh : b ≤ high) (hb : b < 0x100) :
    decodeFrom (some ⟨value, low, high, more + 1⟩) (UInt8.ofNat b :: rest) =
      decodeFrom (some ⟨value * 0x40 + (b - 0x80), 0x80, 0xBF, more⟩) rest :=
  decodeFrom_some hlow hhigh hb

theorem start_of_two (h : 0xC2 ≤ b) (h' : b < 0xE0) :
    start b = ([], some ⟨b - 0xC0, 0x80, 0xBF, 0⟩) := by
  rw [start, if_neg (by omega), if_neg (by omega), if_pos h']

theorem start_of_three (h : 0xE0 ≤ b) (h' : b < 0xF0) : start b = ([], some
    ⟨b - 0xE0, if b = 0xE0 then 0xA0 else 0x80, if b = 0xED then 0x9F else 0xBF, 1⟩) := by
  rw [start, if_neg (by omega), if_neg (by omega), if_neg (by omega), if_pos h']

theorem start_of_four (h : 0xF0 ≤ b) (h' : b < 0xF5) : start b = ([], some
    ⟨b - 0xF0, if b = 0xF0 then 0x90 else 0x80, if b = 0xF4 then 0x8F else 0xBF, 2⟩) := by
  rw [start, if_neg (by omega), if_neg (by omega), if_neg (by omega), if_neg (by omega),
    if_pos h']

end

/-- **The bytes of a character are read as the character.** -/
theorem decodeFrom_encodeChar (c : Char) (rest : List UInt8) :
    decodeFrom none (String.utf8EncodeChar c ++ rest) = c :: decodeFrom none rest := by
  have hvalid : c.val.toNat < 0xD800 ∨ 0xDFFF < c.val.toNat ∧ c.val.toNat < 0x110000 := c.valid
  have hchar : Char.ofNat c.val.toNat = c := Char.ofNat_toNat c
  unfold String.utf8EncodeChar
  dsimp only
  generalize c.val.toNat = v at hvalid hchar
  rw [← hchar]
  -- one case for each number of bytes, in which the six bits of each put the number together
  split
  · rw [List.singleton_append, decodeFrom_none (by omega), start, if_pos (by omega)]
    rfl
  split
  · have hvalue : (v / 64 % 0x20 + 0xC0 - 0xC0) * 0x40 + (v % 0x40 + 0x80 - 0x80) = v := by omega
    rw [List.cons_append, List.singleton_append, decodeFrom_none (by omega),
      start_of_two (by omega) (by omega), List.nil_append,
      decodeFrom_last (by omega) (by omega) (by omega), hvalue]
  split
  · have hvalue : ((v / 4096 % 0x10 + 0xE0 - 0xE0) * 0x40 + (v / 64 % 0x40 + 0x80 - 0x80)) * 0x40 +
        (v % 0x40 + 0x80 - 0x80) = v := by omega
    rw [List.cons_append, List.cons_append, List.singleton_append, decodeFrom_none (by omega),
      start_of_three (by omega) (by omega), List.nil_append,
      decodeFrom_more (by split <;> omega) (by split <;> omega) (by omega),
      decodeFrom_last (by omega) (by omega) (by omega), hvalue]
  · have hvalue : (((v / 262144 % 0x08 + 0xF0 - 0xF0) * 0x40 + (v / 4096 % 0x40 + 0x80 - 0x80)) *
        0x40 + (v / 64 % 0x40 + 0x80 - 0x80)) * 0x40 + (v % 0x40 + 0x80 - 0x80) = v := by omega
    rw [List.cons_append, List.cons_append, List.cons_append, List.singleton_append,
      decodeFrom_none (by omega), start_of_four (by omega) (by omega), List.nil_append,
      decodeFrom_more (by split <;> omega) (by split <;> omega) (by omega),
      decodeFrom_more (by omega) (by omega) (by omega),
      decodeFrom_last (by omega) (by omega) (by omega), hvalue]

/-- **A text is read back from its bytes,** whatever comes behind them. -/
theorem decode_encode_append (text : List Char) (rest : List UInt8) :
    decode (encode text ++ rest) = text ++ decode rest := by
  induction text with
  | nil => rfl
  | cons c text ih =>
    rw [encode_cons, List.append_assoc, decode, decodeFrom_encodeChar, ← decode, ih,
      List.cons_append]

theorem decode_encode (text : List Char) : decode (encode text) = text := by
  have h := decode_encode_append text []
  rwa [List.append_nil, show decode [] = [] from rfl, List.append_nil] at h

theorem isText_encode (text : List Char) : IsText (encode text) := ⟨text, rfl⟩

theorem IsText.append {left right : List UInt8} (hleft : IsText left) (hright : IsText right) :
    IsText (left ++ right) := by
  obtain ⟨text, rfl⟩ := hleft
  obtain ⟨text', rfl⟩ := hright
  exact ⟨text ++ text', encode_append text text'⟩

/-- Bytes are a text if they are shown as what they are. -/
theorem isText_iff {bytes : List UInt8} : IsText bytes ↔ encode (decode bytes) = bytes := by
  constructor
  · rintro ⟨text, rfl⟩
    rw [decode_encode]
  · exact fun h => ⟨decode bytes, h⟩

instance (bytes : List UInt8) : Decidable (IsText bytes) := decidable_of_iff' _ isText_iff

/-! ### Slashes -/

/-- A byte below `80` is that of one character alone. -/
theorem toNat_eq_of_mem_encodeChar {c : Char} {b : UInt8} (h : b ∈ String.utf8EncodeChar c)
    (hb : b.toNat < 0x80) : c.toNat = b.toNat := by
  have hother {n : Nat} (hn : 0x80 ≤ n) (hn' : n < 0x100) : b ≠ UInt8.ofNat n := by
    rintro rfl
    rw [UInt8.toNat_ofNat', Nat.mod_eq_of_lt hn'] at hb
    omega
  unfold String.utf8EncodeChar at h
  dsimp only at h
  split at h
  · rw [List.mem_singleton.1 h, UInt8.toNat_ofNat', Nat.mod_eq_of_lt (by omega)]
    rfl
  · split at h
    · simp only [List.mem_cons, List.not_mem_nil, or_false] at h
      rcases h with h | h <;> exact absurd h (hother (by omega) (by omega))
    split at h
    · simp only [List.mem_cons, List.not_mem_nil, or_false] at h
      rcases h with h | h | h <;> exact absurd h (hother (by omega) (by omega))
    · simp only [List.mem_cons, List.not_mem_nil, or_false] at h
      rcases h with h | h | h | h <;> exact absurd h (hother (by omega) (by omega))

/-- A slash is among the bytes of a text exactly if it stands in the text. -/
theorem slash_mem_encode_iff {text : List Char} : 0x2F ∈ encode text ↔ '/' ∈ text := by
  rw [encode, List.mem_flatMap]
  constructor
  · rintro ⟨c, hc, hslash⟩
    have hvalue : c.toNat = '/'.toNat := toNat_eq_of_mem_encodeChar hslash (by decide)
    rwa [← Char.toNat_inj.1 hvalue]
  · exact fun h => ⟨'/', h, by decide⟩

/-- The bytes of a text start with a slash exactly if the text does. -/
theorem head?_encode_eq_slash_iff {text : List Char} :
    (encode text).head? = some 0x2F ↔ text.head? = some '/' := by
  cases text with
  | nil => decide
  | cons c text =>
    obtain ⟨b, hb⟩ := Option.ne_none_iff_exists'.1
      (mt List.head?_eq_none_iff.1 (String.utf8EncodeChar_ne_nil (c := c)))
    rw [encode_cons, List.head?_append, hb, Option.some_or, List.head?_cons, Option.some_inj,
      Option.some_inj]
    constructor
    · rintro rfl
      have hvalue : c.toNat = '/'.toNat :=
        toNat_eq_of_mem_encodeChar (List.mem_of_head? hb) (by decide)
      exact Char.toNat_inj.1 hvalue
    · rintro rfl
      exact (Option.some.inj hb).symm

/-- The number of a started character is no less than this. -/
def Started.least (started : Started) : Nat :=
  (started.value * 0x40 + (started.low - 0x80)) * 0x40 ^ started.more

/-- A byte is a character beneath `80`, and else it is replaced or starts one from `80` on. -/
theorem start_cases (b : Nat) :
    (b < 0x80 ∧ start b = ([Char.ofNat b], none)) ∨
      (0x80 ≤ b ∧ start b = ([replacement], none)) ∨
      (0x80 ≤ b ∧ ∃ started, 0x80 ≤ started.least ∧ start b = ([], some started)) := by
  unfold start
  split
  · exact .inl ⟨‹_›, rfl⟩
  split
  · exact .inr (.inl ⟨by omega, rfl⟩)
  split
  · refine .inr (.inr ⟨by omega, _, ?_, rfl⟩)
    simp only [Started.least]
    omega
  split
  · refine .inr (.inr ⟨by omega, _, ?_, rfl⟩)
    simp only [Started.least]
    split <;> omega
  split
  · refine .inr (.inr ⟨by omega, _, ?_, rfl⟩)
    simp only [Started.least]
    split <;> omega
  · exact .inr (.inl ⟨by omega, rfl⟩)

/-- A byte that goes on with a character finishes it, or leaves it started. -/
theorem Started.next_cases (started : Started) {b : Nat} (hlow : started.low ≤ b) :
    (∃ n, started.least ≤ n ∧ started.next b = ([Char.ofNat n], none)) ∨
      ∃ started', started.least ≤ started'.least ∧ started.next b = ([], some started') := by
  have hvalue : started.value * 0x40 + (started.low - 0x80) ≤ started.valueWith b := by
    unfold Started.valueWith
    omega
  unfold next least
  cases started.more with
  | zero =>
    refine .inl ⟨started.valueWith b, ?_, rfl⟩
    rwa [Nat.pow_zero, Nat.mul_one]
  | succ more =>
    refine .inr ⟨⟨started.valueWith b, 0x80, 0xBF, more⟩, ?_, rfl⟩
    rw [Nat.pow_succ', ← Nat.mul_assoc, Nat.sub_self, Nat.add_zero]
    exact Nat.mul_le_mul_right _ (Nat.mul_le_mul_right _ hvalue)

theorem ofNat_eq_slash_iff {n : Nat} : Char.ofNat n = '/' ↔ n = 0x2F := by
  constructor
  · intro h
    by_cases hn : n.isValidChar
    · rw [Char.ofNat, dif_pos hn] at h
      exact congrArg Char.toNat h
    · rw [Char.ofNat, dif_neg hn] at h
      exact absurd h (by decide)
  · rintro rfl
    rfl

/-- What is shown for a started character and the bytes behind it does not start with a slash. -/
theorem head?_decodeFrom_some {started : Started} (h : 0x80 ≤ started.least) (bytes : List UInt8) :
    (decodeFrom (some started) bytes).head? ≠ some '/' := by
  induction bytes generalizing started with
  | nil => exact fun hslash => absurd (Option.some.inj hslash) (by decide)
  | cons b rest ih =>
    rw [decodeFrom, step]
    split
    · rename_i hbounds
      rcases started.next_cases hbounds.1 with ⟨n, hn, hnext⟩ | ⟨started', hleast, hnext⟩
      · rw [hnext, List.singleton_append, List.head?_cons]
        intro hslash
        have hvalue := ofNat_eq_slash_iff.1 (Option.some.inj hslash)
        omega
      · rw [hnext, List.nil_append]
        exact ih (Nat.le_trans h hleast)
    · rw [List.cons_append, List.head?_cons]
      decide

/-- **Bytes are shown with a slash in front exactly if they start with one.** -/
theorem head?_decode_eq_slash_iff {bytes : List UInt8} :
    (decode bytes).head? = some '/' ↔ bytes.head? = some 0x2F := by
  cases bytes with
  | nil => decide
  | cons b rest =>
    have hslash : b = 0x2F ↔ b.toNat = 0x2F := UInt8.toNat_inj.symm
    rw [List.head?_cons, Option.some_inj, hslash, decode, decodeFrom, step]
    rcases start_cases b.toNat with ⟨hb, h⟩ | ⟨hb, h⟩ | ⟨hb, started, hstarted, h⟩
    · rw [h, List.singleton_append, List.head?_cons, Option.some_inj]
      exact ofNat_eq_slash_iff
    · rw [h, List.singleton_append, List.head?_cons, Option.some_inj]
      exact iff_of_false (by decide) (by omega)
    · rw [h, List.nil_append]
      exact iff_of_false (head?_decodeFrom_some hstarted rest) (by omega)

end Utf8
end Text
end CurveSheet
