import Highlighter.Proofs.Buffer.Decode

/-! Text is recovered from the bytes it was written in. The bytes of a character are decoded as this
character, whatever follows them, so a text is decoded once its encoding is known. It is known from
a byte order mark, from the zero bytes of Latin text in UTF-16, and otherwise from the bytes beyond
ASCII; the bytes of a text in UTF-8 mislead none of these tests. -/
namespace Highlighter

namespace Encoding

/-- The bytes of a text in UTF-16, with the bytes of a unit in either order. -/
def wide (bytesOf : Nat → List UInt8) (cs : List Char) : List UInt8 :=
  cs.flatMap fun c => (units c).flatMap bytesOf

/-- The bytes are those of the characters, one after the other. -/
inductive Spells (e : Encoding) : List Char → List UInt8 → Prop
  | done : Spells e [] []
  | more {c : Char} {span bytes : List UInt8} {cs : List Char} (first : e.spell? c = some span)
      (later : Spells e cs bytes) : Spells e (c :: cs) (span ++ bytes)

theorem spells_flatMap {e : Encoding} {cs : List Char} {spell : Char → List UInt8}
    (spelled : ∀ c ∈ cs, e.spell? c = some (spell c)) : Spells e cs (cs.flatMap spell) := by
  induction cs with
  | nil => exact .done
  | cons c cs ih =>
    obtain ⟨first, others⟩ := List.forall_mem_cons.mp spelled
    exact .more first (ih others)

theorem spells_encode (cs : List Char) : Spells .utf8 cs (Text.Utf8.encode cs) :=
  spells_flatMap fun _ _ => rfl

theorem spells_ascii {cs : List Char} (narrow : ∀ c ∈ cs, c.toNat < 0x80) :
    Spells .ascii cs (Text.Utf8.encode cs) := by
  apply spells_flatMap
  intro c member
  rw [spell?, if_pos (narrow c member), Text.Utf8.encodeChar_ascii (narrow c member)]

theorem spells_little (cs : List Char) : Spells .utf16le cs (wide littleBytes cs) :=
  spells_flatMap fun _ _ => rfl

theorem spells_big (cs : List Char) : Spells .utf16be cs (wide bigBytes cs) :=
  spells_flatMap fun _ _ => rfl

end Encoding

namespace Cell
open Encoding

theorem ofAscii_spelled {c : Char} (narrow : c.toNat < 0x80) :
    ofAscii (UInt8.ofNat c.toNat) = ⟨c, [UInt8.ofNat c.toNat], none⟩ := by
  have byte : (UInt8.ofNat c.toNat).toNat = c.toNat := Text.Utf8.toNat_byte (by omega)
  rw [ofAscii, byte, if_pos narrow, Char.ofNat_toNat]

theorem ofUtf8_spelled (c : Char) (rest : List UInt8) :
    ofUtf8 (Text.Utf8.encodeChar c ++ rest) =
      ⟨c, Text.Utf8.encodeChar c, none⟩ :: ofUtf8 rest := by
  obtain ⟨first, tail, spelled, read⟩ := Text.Utf8.head_encodeChar c rest
  rw [spelled, List.cons_append, ofUtf8, read]
  simp only [Nat.add_sub_cancel, List.take_left, List.drop_left]

section Wide
variable {unit : UInt8 → UInt8 → Nat} {bytesOf : Nat → List UInt8}

/-- A unit falls into two bytes, which make the unit again. -/
def Joins (unit : UInt8 → UInt8 → Nat) (bytesOf : Nat → List UInt8) : Prop :=
  ∀ u < 0x10000, ∃ a b, bytesOf u = [a, b] ∧ unit a b = u

theorem toNat_halves {u : Nat} (small : u < 0x10000) :
    (UInt8.ofNat (u % 256)).toNat = u % 256 ∧ (UInt8.ofNat (u / 256)).toNat = u / 256 :=
  ⟨Text.Utf8.toNat_byte (by omega), Text.Utf8.toNat_byte (by omega)⟩

theorem joins_little : Joins littleUnit littleBytes := by
  intro u small
  obtain ⟨low, high⟩ := toNat_halves small
  refine ⟨_, _, rfl, ?_⟩
  rw [littleUnit, low, high]
  omega

theorem joins_big : Joins bigUnit bigBytes := by
  intro u small
  obtain ⟨low, high⟩ := toNat_halves small
  refine ⟨_, _, rfl, ?_⟩
  rw [bigUnit, low, high]
  omega

theorem ofUtf16_spelled (joins : Joins unit bytesOf) (c : Char) (rest : List UInt8) :
    ofUtf16 unit ((units c).flatMap bytesOf ++ rest) =
      ⟨c, (units c).flatMap bytesOf, none⟩ :: ofUtf16 unit rest := by
  have valid : c.toNat < 0xd800 ∨ 0xdfff < c.toNat ∧ c.toNat < 0x110000 := c.valid
  unfold units
  split
  · rename_i small
    obtain ⟨a, b, bytes, joined⟩ := joins c.toNat small
    have noHigh : ¬ isHighSurrogate c.toNat = true := by
      rw [isHighSurrogate_iff]
      omega
    have noLow : ¬ isLowSurrogate c.toNat = true := by
      rw [isLowSurrogate_iff]
      omega
    rw [List.flatMap_singleton, bytes, List.cons_append, List.singleton_append, ofUtf16.eq_def]
    dsimp only
    rw [joined, if_neg noHigh, if_neg noLow, Char.ofNat_toNat]
  · rename_i large
    generalize above : 0xd800 + (c.toNat - 0x10000) / 0x400 = u
    generalize below : 0xdc00 + (c.toNat - 0x10000) % 0x400 = v
    obtain ⟨a, b, first, high⟩ := joins u (by omega)
    obtain ⟨a', b', second, low⟩ := joins v (by omega)
    have isHigh : isHighSurrogate u = true := isHighSurrogate_iff.mpr (by omega)
    have isLow : isLowSurrogate v = true := isLowSurrogate_iff.mpr (by omega)
    have code : 0x10000 + (u - 0xd800) * 0x400 + (v - 0xdc00) = c.toNat := by omega
    have pair : ofPair u v = c := by rw [ofPair, code, Char.ofNat_toNat]
    rw [List.flatMap_cons, List.flatMap_singleton, first, second]
    simp only [List.cons_append, List.nil_append]
    rw [ofUtf16, high, low, if_pos isHigh, if_pos isLow, pair]

end Wide

end Cell

namespace Encoding

/-- The bytes of a character are a cell of their own, whatever follows them. -/
theorem cellsOf_spelled {e : Encoding} {c : Char} {span : List UInt8}
    (spelled : e.spell? c = some span) (rest : List UInt8) :
    e.cellsOf (span ++ rest) = ⟨c, span, none⟩ :: e.cellsOf rest := by
  cases e with
  | ascii =>
    rw [spell?] at spelled
    split at spelled
    · rename_i narrow
      cases spelled
      rw [cellsOf, List.singleton_append, List.map_cons, Cell.ofAscii_spelled narrow]
      rfl
    · cases spelled
  | utf8 =>
    cases spelled
    exact Cell.ofUtf8_spelled c rest
  | utf16le =>
    cases spelled
    exact Cell.ofUtf16_spelled Cell.joins_little c rest
  | utf16be =>
    cases spelled
    exact Cell.ofUtf16_spelled Cell.joins_big c rest

theorem cellsOf_nil (e : Encoding) : e.cellsOf [] = [] := by
  cases e with
  | ascii => rfl
  | utf8 => rw [cellsOf, Cell.ofUtf8]
  | utf16le => rw [cellsOf, Cell.ofUtf16]
  | utf16be => rw [cellsOf, Cell.ofUtf16]

/-- What is spelled is decoded to the characters, and nothing is wrong with them. -/
theorem Spells.cells {e : Encoding} {cs : List Char} {bytes : List UInt8}
    (spells : Spells e cs bytes) : (e.cellsOf bytes).map Cell.char = cs ∧
      ∀ cell ∈ e.cellsOf bytes, cell.fault = none := by
  induction spells with
  | done => simp [cellsOf_nil]
  | more first later ih =>
    obtain ⟨chars, sound⟩ := ih
    rw [cellsOf_spelled first]
    constructor
    · rw [List.map_cons, chars]
    · rw [List.forall_mem_cons]
      exact ⟨rfl, sound⟩

end Encoding

namespace Text.Utf8

/-- The character whose bytes are the byte order mark. -/
def markChar : Char := '\ufeff'

end Text.Utf8

namespace Encoding
open Text

/-- The bytes begin with no byte order mark. -/
def Unmarked (bytes : List UInt8) : Prop := ∀ e, e ≠ ascii → e.mark.isPrefixOf bytes = false

section Marks
variable {bytes : List UInt8}

theorem Unmarked.markLength (unmarked : Unmarked bytes) (e : Encoding) :
    e.markLength bytes = 0 := by
  by_cases plain : e = ascii
  · rw [plain]
    rfl
  · rw [Encoding.markLength, unmarked e plain]
    rfl

theorem Unmarked.detect (unmarked : Unmarked bytes) : detect bytes =
    (detectWide? bytes).getD (if bytes.all (·.toNat < 0x80) then ascii else utf8) := by
  rw [Encoding.detect, unmarked utf8 nofun, unmarked utf16le nofun, unmarked utf16be nofun]
  cases detectWide? bytes <;> rfl

theorem detect_marked {e : Encoding} (marked : e ≠ ascii) (bytes : List UInt8) :
    detect (e.mark ++ bytes) = e ∧ e.markLength (e.mark ++ bytes) = e.mark.length := by
  cases e with
  | ascii => contradiction
  | utf8 => exact ⟨rfl, rfl⟩
  | utf16le => exact ⟨rfl, rfl⟩
  | utf16be => exact ⟨rfl, rfl⟩

/-- A text in UTF-8 begins with no other byte order mark than its own, and with this one only as a
character. -/
theorem unmarked_encode {cs : List Char} (unmarked : cs.head? ≠ some Utf8.markChar) :
    Unmarked (Utf8.encode cs) := by
  intro e marked
  rw [Bool.eq_false_iff, ne_eq, List.isPrefixOf_iff_prefix]
  rintro ⟨rest, whole⟩
  cases e with
  | ascii => contradiction
  | utf8 =>
    obtain ⟨c, width, first, read⟩ := Utf8.head_of_encode whole.symm
    have same : Utf8.Head.char Utf8.markChar 3 = .char c width := read
    cases same
    exact unmarked first
  | utf16le | utf16be =>
    obtain ⟨c, width, _, read⟩ := Utf8.head_of_encode whole.symm
    have same : Utf8.Head.malformed 1 = .char c width := read
    cases same

theorem unmarked_of_zero {a b : UInt8} (zero : a = 0 ∨ b = 0) (rest : List UInt8) :
    Unmarked (a :: b :: rest) := by
  intro e marked
  rcases zero with rfl | rfl <;> cases e <;> simp [mark, List.isPrefixOf] at marked ⊢

end Marks

section Zeros
variable {bytes : List UInt8}

theorem zeroCounts_of_filled (filled : 0 ∉ bytes) : ∃ pairs, zeroCounts bytes = (0, 0, pairs) := by
  fun_induction zeroCounts bytes with
  | case1 first second rest firsts seconds pairs counted ih =>
    simp only [List.mem_cons, not_or] at filled
    obtain ⟨noFirst, noSecond, others⟩ := filled
    obtain ⟨some, none⟩ := ih others
    rw [counted] at none
    cases none
    rw [if_neg (Ne.symm noFirst), if_neg (Ne.symm noSecond)]
    exact ⟨_, rfl⟩
  | case2 => exact ⟨0, rfl⟩

/-- The zero bytes among the first so many pairs. -/
theorem zeroCounts_pairs (first second : Char → UInt8) (cs : List Char) (n : Nat) :
    zeroCounts ((cs.flatMap fun c => [first c, second c]).take (2 * n)) =
      ((cs.take n).countP (first · = 0), (cs.take n).countP (second · = 0),
        (cs.take n).length) := by
  induction n generalizing cs with
  | zero => rfl
  | succ n ih =>
    cases cs with
    | nil => rfl
    | cons c cs =>
      rw [List.flatMap_cons, Nat.mul_succ, List.cons_append, List.singleton_append,
        List.take_succ_cons, List.take_succ_cons, zeroCounts, ih, List.take_succ_cons]
      simp only [List.countP_cons, List.length_cons, decide_eq_true_eq]

theorem detectWide?_eq {firsts seconds pairs : Nat}
    (counted : zeroCounts (bytes.take sampleLength) = (firsts, seconds, pairs)) :
    detectWide? bytes = if pairs = 0 then none
      else if firsts = 0 ∧ pairs ≤ 2 * seconds then some utf16le
      else if seconds = 0 ∧ pairs ≤ 2 * firsts then some utf16be
      else none := by
  simp [detectWide?, counted]

theorem detectWide?_of_filled (filled : 0 ∉ bytes) : detectWide? bytes = none := by
  have sampled : 0 ∉ bytes.take sampleLength := fun member => filled (List.mem_of_mem_take member)
  obtain ⟨pairs, counted⟩ := zeroCounts_of_filled sampled
  rw [detectWide?_eq counted]
  split
  · rfl
  · have few : ¬ (0 = 0 ∧ pairs ≤ 2 * 0) := by omega
    rw [if_neg few, if_neg few]

end Zeros

/-- A text in UTF-8 that begins with no byte order mark and has no zero byte is recognised. -/
theorem detect_encode {cs : List Char} (unmarked : cs.head? ≠ some Utf8.markChar)
    (filled : '\x00' ∉ cs) : detect (Utf8.encode cs) =
      if cs.all (·.toNat < 0x80) then ascii else utf8 := by
  rw [(unmarked_encode unmarked).detect, detectWide?_of_filled (Utf8.zero_not_mem_encode filled),
    Option.getD_none, Utf8.all_encode_ascii]

section Latin
variable {cs : List Char}

/-- Each character of Latin text is one unit with one byte that is not zero. -/
theorem wide_latin {bytesOf : Nat → List UInt8} (pair : UInt8 → List UInt8)
    (latin : ∀ c ∈ cs, 0 < c.toNat ∧ c.toNat ≤ 0xff)
    (single : ∀ u ≤ 0xff, bytesOf u = pair (UInt8.ofNat u)) :
    wide bytesOf cs = cs.flatMap fun c => pair (UInt8.ofNat c.toNat) := by
  refine List.flatMap_congr fun c member => ?_
  have small := (latin c member).2
  rw [units, if_pos (by omega), List.flatMap_singleton, single _ small]

theorem littleBytes_single (u : Nat) (small : u ≤ 0xff) : littleBytes u = [UInt8.ofNat u, 0] := by
  have low : u % 256 = u := by omega
  have high : u / 256 = 0 := by omega
  rw [littleBytes, low, high]
  rfl

theorem bigBytes_single (u : Nat) (small : u ≤ 0xff) : bigBytes u = [0, UInt8.ofNat u] := by
  have low : u % 256 = u := by omega
  have high : u / 256 = 0 := by omega
  rw [bigBytes, low, high]
  rfl

theorem countP_latin (latin : ∀ c ∈ cs, 0 < c.toNat ∧ c.toNat ≤ 0xff) (n : Nat) :
    (cs.take n).countP (UInt8.ofNat ·.toNat = 0) = 0 := by
  rw [List.countP_eq_zero]
  intro c member zero
  obtain ⟨some, small⟩ := latin c (List.mem_of_mem_take member)
  have number := congrArg UInt8.toNat (of_decide_eq_true zero)
  rw [Utf8.toNat_byte (by omega)] at number
  exact absurd number (Nat.ne_of_gt some)

/-- Latin text in UTF-16 is recognised without a mark, since the high byte of every unit is zero
and no low byte is. -/
theorem detect_latin (filled : cs ≠ [])
    (latin : ∀ c ∈ cs, 0 < c.toNat ∧ c.toNat ≤ 0xff) :
    (detect (wide littleBytes cs) = utf16le ∧ Unmarked (wide littleBytes cs)) ∧
      detect (wide bigBytes cs) = utf16be ∧ Unmarked (wide bigBytes cs) := by
  have few : 0 < (cs.take 256).length := by
    rw [List.length_take]
    have some := List.length_pos_of_ne_nil filled
    omega
  have zeros : (cs.take 256).countP (fun _ => decide ((0 : UInt8) = 0)) = (cs.take 256).length :=
    List.countP_eq_length.mpr fun _ _ => rfl
  have low := countP_latin latin 256
  obtain ⟨c, rest, rfl⟩ := List.exists_cons_of_ne_nil filled
  rw [wide_latin (fun low => [low, 0]) latin littleBytes_single,
    wide_latin (fun low => [0, low]) latin bigBytes_single]
  constructor
  · have unmarked : Unmarked ((c :: rest).flatMap fun c => [UInt8.ofNat c.toNat, 0]) :=
      unmarked_of_zero (.inr rfl) _
    refine ⟨?_, unmarked⟩
    rw [unmarked.detect, detectWide?_eq (zeroCounts_pairs _ _ _ 256), low, zeros,
      if_neg (Nat.ne_of_gt few), if_pos ⟨rfl, by omega⟩]
    rfl
  · have unmarked : Unmarked ((c :: rest).flatMap fun c => [0, UInt8.ofNat c.toNat]) :=
      unmarked_of_zero (.inl rfl) _
    refine ⟨?_, unmarked⟩
    rw [unmarked.detect, detectWide?_eq (zeroCounts_pairs _ _ _ 256), low, zeros,
      if_neg (Nat.ne_of_gt few), if_neg (by omega), if_pos ⟨rfl, by omega⟩]
    rfl

end Latin

end Encoding

namespace Buffer
open Encoding Text

/-- The characters of a buffer are these, and nothing is wrong with any of them. -/
structure Holds (b : Buffer) (cs : List Char) : Prop where
  chars : b.chars = cs
  sound : b.issues = []

theorem ofCells_sound {cells : List Cell} (sound : ∀ cell ∈ cells, cell.fault = none)
    (offset bytePos : Nat) : Issue.ofCells offset bytePos cells = [] := by
  induction cells generalizing offset bytePos with
  | nil => rfl
  | cons cell rest ih =>
    obtain ⟨first, others⟩ := List.forall_mem_cons.mp sound
    rw [Issue.ofCells, first, ih others]
    rfl

/-- A buffer holds the text that its bytes behind the byte order mark spell. -/
theorem holds_of_spells {e : Encoding} {cs : List Char} {bytes : List UInt8} (name : String)
    (spells : Spells e cs (bytes.drop (e.markLength bytes))) : (decode name e bytes).Holds cs := by
  obtain ⟨chars, sound⟩ := spells.cells
  exact ⟨chars, ofCells_sound sound _ _⟩

theorem holds_of_unmarked {e : Encoding} {cs : List Char} {bytes : List UInt8} (name : String)
    (unmarked : Unmarked bytes) (spells : Spells e cs bytes) : (decode name e bytes).Holds cs := by
  apply holds_of_spells
  rw [unmarked.markLength, List.drop_zero]
  exact spells

theorem holds_of_marked {e : Encoding} {cs : List Char} {bytes : List UInt8} (name : String)
    (marked : e ≠ ascii) (spells : Spells e cs bytes) :
    (ofBytes name (e.mark ++ bytes)).Holds cs := by
  obtain ⟨detected, length⟩ := detect_marked marked bytes
  rw [ofBytes, detected]
  apply holds_of_spells
  rw [length, List.drop_left]
  exact spells

theorem ofText_holds {cs : List Char} (name : String) (unmarked : cs.head? ≠ some Utf8.markChar) :
    (ofText name cs).Holds cs := by
  apply holds_of_unmarked name (unmarked_encode unmarked)
  split
  · rename_i narrow
    exact spells_ascii (by simpa using narrow)
  · exact spells_encode cs

theorem ofText_mark (name : String) (cs : List Char) :
    (ofText name (Utf8.markChar :: cs)).Holds cs := by
  apply holds_of_spells
  exact spells_encode cs

/-- A text is recovered, without an issue, from its bytes in UTF-8, from its bytes in any encoding
behind the byte order mark, and from its bytes in UTF-16 alone if it is Latin; and a buffer of a
text drops a byte order mark at its beginning and nothing else. -/
theorem written_text_is_recovered (name : String) (cs : List Char) :
    (cs.head? ≠ some '\ufeff' → '\x00' ∉ cs → (ofBytes name (Utf8.encode cs)).Holds cs) ∧
    (ofBytes name (utf8.mark ++ Utf8.encode cs)).Holds cs ∧
    (ofBytes name (utf16le.mark ++ wide littleBytes cs)).Holds cs ∧
    (ofBytes name (utf16be.mark ++ wide bigBytes cs)).Holds cs ∧
    (cs ≠ [] → (∀ c ∈ cs, 0 < c.toNat ∧ c.toNat ≤ 0xff) →
      (ofBytes name (wide littleBytes cs)).Holds cs ∧
      (ofBytes name (wide bigBytes cs)).Holds cs) ∧
    (cs.head? ≠ some '\ufeff' → (ofText name cs).Holds cs) ∧
    (ofText name ('\ufeff' :: cs)).Holds cs := by
  refine ⟨?_, ?_, ?_, ?_, ?_, ofText_holds name, ofText_mark name cs⟩
  · intro unmarked filled
    have same : ofBytes name (Utf8.encode cs) = ofText name cs := by
      rw [ofBytes, detect_encode unmarked filled, ofText]
    exact same ▸ ofText_holds name unmarked
  · exact holds_of_marked name nofun (spells_encode cs)
  · exact holds_of_marked name nofun (spells_little cs)
  · exact holds_of_marked name nofun (spells_big cs)
  · intro filled latin
    obtain ⟨⟨little, unmarkedLittle⟩, big, unmarkedBig⟩ := detect_latin filled latin
    rw [ofBytes, ofBytes, little, big]
    constructor
    · exact holds_of_unmarked name unmarkedLittle (spells_little cs)
    · exact holds_of_unmarked name unmarkedBig (spells_big cs)

theorem latin_text_recovered :
    (ofBytes "a" [0xc3, 0xbf, 0xc3, 0xbe]).Holds ['\xff', '\xfe'] ∧
    (ofBytes "a" [0xff, 0x00, 0xfe, 0x00]).Holds ['\xff', '\xfe'] ∧
    (ofBytes "a" [0x00, 0xff, 0x00, 0xfe]).Holds ['\xff', '\xfe'] ∧
    (ofText "a" ['\xff', '\xfe']).Holds ['\xff', '\xfe'] := by
  obtain ⟨utf8, _, _, _, utf16, text, _⟩ := written_text_is_recovered "a" ['\xff', '\xfe']
  have latin : ∀ c ∈ ['\xff', '\xfe'], 0 < c.toNat ∧ c.toNat ≤ 0xff := by
    rw [List.forall_mem_cons, List.forall_mem_singleton]
    decide
  obtain ⟨little, big⟩ := utf16 (List.cons_ne_nil _ _) latin
  exact ⟨utf8 (by decide) (by decide), little, big, text (by decide)⟩

end Buffer
end Highlighter
