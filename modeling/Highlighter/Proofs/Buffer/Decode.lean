import Highlighter.Buffer.Basic
import Highlighter.Proofs.Text.Utf8

/-! Decoding accounts for every byte. A decoder goes through the bytes from left to right and cuts
off one span for each character, which is spelled by the span or marked as damaged. What the four
decoders do is one judgment on bytes and cells; all that is said about the spans and the issues of a
buffer is read off from it. -/
namespace Highlighter

namespace Encoding

/-- The units of a character in UTF-16: the character itself, or two surrogates. -/
def units (c : Char) : List Nat :=
  if c.toNat < 0x10000 then [c.toNat]
  else [0xd800 + (c.toNat - 0x10000) / 0x400, 0xdc00 + (c.toNat - 0x10000) % 0x400]

def littleBytes (unit : Nat) : List UInt8 := [UInt8.ofNat (unit % 256), UInt8.ofNat (unit / 256)]

def bigBytes (unit : Nat) : List UInt8 := [UInt8.ofNat (unit / 256), UInt8.ofNat (unit % 256)]

/-- The bytes of a character, if it can be spelled in the encoding. -/
def spell? : Encoding → Char → Option (List UInt8)
  | ascii, c => if c.toNat < 0x80 then some [UInt8.ofNat c.toNat] else none
  | utf8, c => some (Text.Utf8.encodeChar c)
  | utf16le, c => some ((units c).flatMap littleBytes)
  | utf16be, c => some ((units c).flatMap bigBytes)

end Encoding

/-- Whether a character with this fault, or without one, may stand for the bytes of a span. -/
def Stands (e : Encoding) (c : Char) (span : List UInt8) : Option Fault → Prop
  | none => e.spell? c = some span
  | some .unpairedSurrogate => c = Cell.replacement ∧ span.length = 2
  | some _ => ∃ b, span = [b] ∧ c = Char.ofNat b.toNat

/-- The bytes are divided into these cells, from the first byte to the last. -/
inductive Covers (e : Encoding) : List UInt8 → List Cell → Prop
  | done : Covers e [] []
  | spelled {c : Char} {span bytes : List UInt8} {cells : List Cell}
      (spells : e.spell? c = some span) (later : Covers e bytes cells) :
      Covers e (span ++ bytes) (⟨c, span, none⟩ :: cells)
  | invalid {b : UInt8} {bytes : List UInt8} {cells : List Cell} (later : Covers e bytes cells) :
      Covers e (b :: bytes) (.raw .invalidByte b :: cells)
  | unpaired {a b : UInt8} {bytes : List UInt8} {cells : List Cell}
      (later : Covers e bytes cells) : Covers e (a :: b :: bytes) (.unpaired a b :: cells)
  | truncated {b : UInt8} {bytes : List UInt8} {cells : List Cell} (near : bytes.length ≤ 2)
      (later : Covers e bytes cells) :
      Covers e (b :: bytes) (.raw .truncatedSequence b :: cells)
  | odd {b : UInt8} : Covers e [b] [.raw .oddTrailingByte b]

namespace Covers
variable {e : Encoding} {bytes : List UInt8} {cells : List Cell}

theorem flatten_bytes (covers : Covers e bytes cells) : (cells.map Cell.bytes).flatten = bytes := by
  induction covers with
  | done => rfl
  | spelled _ _ ih => rw [List.map_cons, List.flatten_cons, ih]
  | invalid _ ih => rw [List.map_cons, List.flatten_cons, ih]; rfl
  | unpaired _ ih => rw [List.map_cons, List.flatten_cons, ih]; rfl
  | truncated _ _ ih => rw [List.map_cons, List.flatten_cons, ih]; rfl
  | odd => rfl

theorem stands (covers : Covers e bytes cells) :
    ∀ cell ∈ cells, Stands e cell.char cell.bytes cell.fault := by
  induction covers with
  | done => simp
  | spelled spells _ ih => exact List.forall_mem_cons.mpr ⟨spells, ih⟩
  | invalid _ ih => exact List.forall_mem_cons.mpr ⟨⟨_, rfl, rfl⟩, ih⟩
  | unpaired _ ih => exact List.forall_mem_cons.mpr ⟨⟨rfl, rfl⟩, ih⟩
  | truncated _ _ ih => exact List.forall_mem_cons.mpr ⟨⟨_, rfl, rfl⟩, ih⟩
  | odd => exact List.forall_mem_singleton.mpr ⟨_, rfl, rfl⟩

theorem length_pos_of_spell? {c : Char} {span : List UInt8} (spells : e.spell? c = some span) :
    0 < span.length := by
  cases e with
  | ascii =>
    rw [Encoding.spell?] at spells
    split at spells
    · cases spells
      exact Nat.one_pos
    · cases spells
  | utf8 =>
    obtain ⟨first, tail, bytes, _⟩ := Text.Utf8.head_encodeChar c []
    cases spells
    rw [bytes]
    exact Nat.succ_pos _
  | utf16le =>
    cases spells
    unfold Encoding.units
    split <;> exact Nat.succ_pos _
  | utf16be =>
    cases spells
    unfold Encoding.units
    split <;> exact Nat.succ_pos _

theorem filled (covers : Covers e bytes cells) : ∀ cell ∈ cells, 0 < cell.bytes.length := by
  induction covers with
  | done => simp
  | spelled spells _ ih => exact List.forall_mem_cons.mpr ⟨length_pos_of_spell? spells, ih⟩
  | invalid _ ih => exact List.forall_mem_cons.mpr ⟨Nat.one_pos, ih⟩
  | unpaired _ ih => exact List.forall_mem_cons.mpr ⟨Nat.two_pos, ih⟩
  | truncated _ _ ih => exact List.forall_mem_cons.mpr ⟨Nat.one_pos, ih⟩
  | odd => exact List.forall_mem_singleton.mpr Nat.one_pos

/-- The first cell holds the first bytes. One that says that the input is cut off is near the end. -/
theorem of_cons {cell : Cell} (covers : Covers e bytes (cell :: cells)) :
    ∃ rest, bytes = cell.bytes ++ rest ∧ Covers e rest cells ∧
      (cell.fault = some .oddTrailingByte → bytes.length = 1) ∧
      (cell.fault = some .truncatedSequence → bytes.length ≤ 3) := by
  cases covers with
  | spelled _ later => exact ⟨_, rfl, later, nofun, nofun⟩
  | invalid later => exact ⟨_, rfl, later, nofun, nofun⟩
  | unpaired later => exact ⟨_, rfl, later, nofun, nofun⟩
  | truncated near later => exact ⟨_, rfl, later, nofun, fun _ => Nat.succ_le_succ near⟩
  | odd => exact ⟨[], rfl, .done, fun _ => rfl, nofun⟩

theorem of_append {before after : List Cell} (covers : Covers e bytes (before ++ after)) :
    ∃ rest, bytes = (before.map Cell.bytes).flatten ++ rest ∧ Covers e rest after := by
  induction before generalizing bytes with
  | nil => exact ⟨bytes, rfl, covers⟩
  | cons cell before ih =>
    obtain ⟨others, first, later, -⟩ := of_cons covers
    obtain ⟨rest, whole, covered⟩ := ih later
    refine ⟨rest, ?_, covered⟩
    rw [first, whole, List.map_cons, List.flatten_cons, List.append_assoc]

end Covers

section Decoders
open Encoding

theorem covers_ascii (bytes : List UInt8) : Covers .ascii bytes (bytes.map Cell.ofAscii) := by
  induction bytes with
  | nil => exact .done
  | cons b rest ih =>
    rw [List.map_cons, Cell.ofAscii]
    split
    · rename_i small
      have valid : b.toNat.isValidChar := .inl (by omega)
      have spells : spell? .ascii (Char.ofNat b.toNat) = some [b] := by
        rw [spell?, Text.toNat_ofNat valid, if_pos small, UInt8.ofNat_toNat]
      exact .spelled spells ih
    · exact .invalid ih

theorem covers_invalid {e : Encoding} {bytes : List UInt8} {cells : List Cell} (bad : List UInt8)
    (later : Covers e bytes cells) :
    Covers e (bad ++ bytes) (bad.map (Cell.raw .invalidByte) ++ cells) := by
  induction bad with
  | nil => exact later
  | cons b bad ih => exact .invalid ih

theorem covers_truncated {e : Encoding} {bytes : List UInt8} (near : bytes.length ≤ 3) :
    Covers e bytes (bytes.map (Cell.raw .truncatedSequence)) := by
  induction bytes with
  | nil => exact .done
  | cons b rest ih =>
    rw [List.length_cons] at near
    exact .truncated (by omega) (ih (by omega))

theorem covers_utf8 (bytes : List UInt8) : Covers .utf8 bytes (Cell.ofUtf8 bytes) := by
  fun_induction Cell.ofUtf8 bytes with
  | case1 => exact .done
  | case2 first rest c width read ih =>
    have spec := Text.Utf8.head_spec first rest
    rw [read] at spec
    have spells : spell? .utf8 c = some (first :: rest.take (width - 1)) := congrArg some spec
    have covered := Covers.spelled spells ih
    rw [List.cons_append, List.take_append_drop] at covered
    exact covered
  | case3 first rest width read ih =>
    have covered := covers_invalid (first :: rest.take (width - 1)) ih
    rw [List.cons_append, List.take_append_drop] at covered
    exact covered
  | case4 first rest read =>
    have spec := Text.Utf8.head_spec first rest
    rw [read] at spec
    exact covers_truncated (Nat.succ_le_succ spec)

theorem isHighSurrogate_iff {u : Nat} :
    Cell.isHighSurrogate u = true ↔ 0xd800 ≤ u ∧ u < 0xdc00 := by
  rw [Cell.isHighSurrogate, Bool.and_eq_true, decide_eq_true_eq, decide_eq_true_eq]

theorem isLowSurrogate_iff {u : Nat} :
    Cell.isLowSurrogate u = true ↔ 0xdc00 ≤ u ∧ u < 0xe000 := by
  rw [Cell.isLowSurrogate, Bool.and_eq_true, decide_eq_true_eq, decide_eq_true_eq]

/-- A unit that is no surrogate is a character of its own. -/
theorem units_ofNat {u : Nat} (small : u < 0x10000) (high : ¬ Cell.isHighSurrogate u = true)
    (low : ¬ Cell.isLowSurrogate u = true) : units (Char.ofNat u) = [u] := by
  rw [isHighSurrogate_iff] at high
  rw [isLowSurrogate_iff] at low
  have valid : u.isValidChar := by
    unfold Nat.isValidChar
    omega
  rw [units, Text.toNat_ofNat valid, if_pos small]

theorem units_ofPair {u v : Nat} (high : Cell.isHighSurrogate u = true)
    (low : Cell.isLowSurrogate v = true) : units (Cell.ofPair u v) = [u, v] := by
  rw [isHighSurrogate_iff] at high
  rw [isLowSurrogate_iff] at low
  generalize code : 0x10000 + (u - 0xd800) * 0x400 + (v - 0xdc00) = n
  have valid : n.isValidChar := .inr (by omega)
  have large : ¬ n < 0x10000 := by omega
  have first : 0xd800 + (n - 0x10000) / 0x400 = u := by omega
  have second : 0xdc00 + (n - 0x10000) % 0x400 = v := by omega
  rw [units, Cell.ofPair, code, Text.toNat_ofNat valid, if_neg large, first, second]

section Wide
variable {e : Encoding} {unit : UInt8 → UInt8 → Nat} {bytesOf : Nat → List UInt8}

/-- In either order of the bytes, a unit is made of two bytes and falls into them again. -/
theorem covers_utf16 (spells : ∀ c, e.spell? c = some ((units c).flatMap bytesOf))
    (small : ∀ a b, unit a b < 0x10000) (splits : ∀ a b, bytesOf (unit a b) = [a, b])
    (bytes : List UInt8) : Covers e bytes (Cell.ofUtf16 unit bytes) := by
  fun_induction Cell.ofUtf16 unit bytes with
  | case1 => exact .done
  | case2 => exact .odd
  | case3 => exact .unpaired .done
  | case4 => exact .unpaired .odd
  | case5 a b high c d tail low ih =>
    have spelled : e.spell? (Cell.ofPair (unit a b) (unit c d)) = some [a, b, c, d] := by
      rw [spells, units_ofPair high low, List.flatMap_cons, List.flatMap_singleton, splits, splits]
      rfl
    exact .spelled spelled ih
  | case6 a b high c d tail lone ih => exact .unpaired ih
  | case7 a b tail noHigh ih =>
    split
    · exact .unpaired ih
    · rename_i noLow
      have spelled : e.spell? (Char.ofNat (unit a b)) = some [a, b] := by
        rw [spells, units_ofNat (small a b) noHigh noLow, List.flatMap_singleton, splits]
      exact .spelled spelled ih

end Wide

theorem covers_cellsOf (e : Encoding) (bytes : List UInt8) : Covers e bytes (e.cellsOf bytes) := by
  cases e with
  | ascii => exact covers_ascii bytes
  | utf8 => exact covers_utf8 bytes
  | utf16le =>
    refine covers_utf16 (fun _ => rfl) (fun a b => ?_) (fun a b => ?_) bytes
    · have low := a.toNat_lt
      have high := b.toNat_lt
      rw [littleUnit]
      omega
    · have low := a.toNat_lt
      have first : (b.toNat * 256 + a.toNat) % 256 = a.toNat := by omega
      have second : (b.toNat * 256 + a.toNat) / 256 = b.toNat := by omega
      rw [littleUnit, littleBytes, Text.Utf8.byte_eq first, Text.Utf8.byte_eq second]
  | utf16be =>
    refine covers_utf16 (fun _ => rfl) (fun a b => ?_) (fun a b => ?_) bytes
    · have high := a.toNat_lt
      have low := b.toNat_lt
      rw [bigUnit]
      omega
    · have low := b.toNat_lt
      have first : (a.toNat * 256 + b.toNat) / 256 = a.toNat := by omega
      have second : (a.toNat * 256 + b.toNat) % 256 = b.toNat := by omega
      rw [bigUnit, bigBytes, Text.Utf8.byte_eq first, Text.Utf8.byte_eq second]

end Decoders

section Issues
variable {cells : List Cell} {offset bytePos : Nat}

/-- Every issue is that of one cell, which stands behind as many characters and bytes as it says. -/
theorem of_mem_ofCells {issue : Issue} (member : issue ∈ Issue.ofCells offset bytePos cells) :
    ∃ before cell after, cells = before ++ cell :: after ∧ cell.fault = some issue.fault ∧
      issue.offset = offset + before.length ∧
      issue.bytePos = bytePos + (before.map Cell.bytes).flatten.length := by
  induction cells generalizing offset bytePos with
  | nil => cases member
  | cons cell rest ih =>
    rw [Issue.ofCells, List.mem_append] at member
    rcases member with here | later
    · rw [Option.mem_toList, Option.map_eq_some_iff] at here
      obtain ⟨fault, faulty, rfl⟩ := here
      exact ⟨[], cell, rest, rfl, faulty, rfl, rfl⟩
    · obtain ⟨before, found, after, rfl, faulty, place, position⟩ := ih later
      refine ⟨cell :: before, found, after, rfl, faulty, ?_, ?_⟩
      · rw [place, List.length_cons]
        omega
      · rw [position, List.map_cons, List.flatten_cons, List.length_append]
        omega

theorem ofCells_pairwise (filled : ∀ cell ∈ cells, 0 < cell.bytes.length) :
    (Issue.ofCells offset bytePos cells).Pairwise fun i j =>
      i.offset < j.offset ∧ i.bytePos < j.bytePos := by
  induction cells generalizing offset bytePos with
  | nil => exact .nil
  | cons cell rest ih =>
    obtain ⟨first, others⟩ := List.forall_mem_cons.mp filled
    rw [Issue.ofCells, List.pairwise_append]
    refine ⟨?_, ih others, ?_⟩
    · cases cell.fault with
      | none => exact .nil
      | some fault => exact List.pairwise_singleton _ _
    · intro i here j later
      rw [Option.mem_toList, Option.map_eq_some_iff] at here
      obtain ⟨fault, _, rfl⟩ := here
      obtain ⟨_, _, _, _, _, place, position⟩ := of_mem_ofCells later
      constructor
      · dsimp only
        omega
      · dsimp only
        omega

/-- The issue at an offset is the fault of the cell there. -/
theorem find?_ofCells (i : Nat) :
    ((Issue.ofCells offset bytePos cells).find? (·.offset = offset + i)).map Issue.fault =
      (cells[i]?).bind Cell.fault := by
  induction cells generalizing offset bytePos i with
  | nil => rfl
  | cons cell rest ih =>
    rw [Issue.ofCells, List.find?_append]
    cases i with
    | zero =>
      have later : (Issue.ofCells (offset + 1) (bytePos + cell.bytes.length) rest).find?
          (·.offset = offset + 0) = none := by
        rw [List.find?_eq_none]
        intro issue member same
        obtain ⟨_, _, _, _, _, place, _⟩ := of_mem_ofCells member
        have equal := of_decide_eq_true same
        omega
      rw [later, Option.or_none, List.getElem?_cons_zero, Option.bind_some]
      cases cell.fault with
      | none => rfl
      | some fault => simp
    | succ i =>
      have here : (cell.fault.map fun fault => Issue.mk fault offset bytePos).toList.find?
          (·.offset = offset + (i + 1)) = none := by
        rw [List.find?_eq_none]
        intro issue member same
        rw [Option.mem_toList, Option.map_eq_some_iff] at member
        obtain ⟨fault, _, rfl⟩ := member
        have equal := of_decide_eq_true same
        dsimp only at equal
        omega
      have shifted : offset + (i + 1) = offset + 1 + i := by omega
      rw [here, Option.none_or, shifted, List.getElem?_cons_succ]
      exact ih i

end Issues

namespace Buffer

/-- What is wrong with the bytes of the character at an offset, by the issues of the buffer. -/
def faultAt? (b : Buffer) (offset : Nat) : Option Fault :=
  (b.issues.find? (·.offset = offset)).map Issue.fault

/-- The characters of a buffer stand for consecutive spans of the bytes behind the byte order mark,
and its issues tell truly which of them are damaged, and where. -/
structure AccountsFor (b : Buffer) (e : Encoding) (bytes : List UInt8)
    (spans : List (List UInt8)) : Prop where
  whole : spans.flatten = bytes.drop (e.markLength bytes)
  oneEach : spans.length = b.chars.length
  stands : ∀ (i : Nat) (c : Char) (span : List UInt8), b.chars[i]? = some c →
    spans[i]? = some span → Stands e c span (b.faultAt? i)
  placed : ∀ issue ∈ b.issues, issue.offset < b.chars.length ∧
    issue.bytePos = e.markLength bytes + (spans.take issue.offset).flatten.length
  ascending : b.issues.Pairwise fun i j => i.offset < j.offset ∧ i.bytePos < j.bytePos
  oddIsLast : ∀ issue ∈ b.issues, issue.fault = .oddTrailingByte →
    issue.bytePos + 1 = bytes.length
  truncatedIsNear : ∀ issue ∈ b.issues, issue.fault = .truncatedSequence →
    bytes.length ≤ issue.bytePos + 3

theorem faultAt?_decode (name : String) (e : Encoding) (bytes : List UInt8) (i : Nat) :
    (decode name e bytes).faultAt? i = ((e.decode bytes)[i]?).bind Cell.fault := by
  have found : ((Issue.ofCells 0 (e.markLength bytes) (e.decode bytes)).find?
      (·.offset = 0 + i)).map Issue.fault = _ := find?_ofCells i
  simp only [Nat.zero_add] at found
  exact found

/-- An issue is that of a cell, and the bytes of this cell and those behind it begin where it says. -/
theorem of_mem_issues {name : String} {e : Encoding} {bytes : List UInt8} {issue : Issue}
    (member : issue ∈ (decode name e bytes).issues) : ∃ before cell after rest,
      e.decode bytes = before ++ cell :: after ∧ cell.fault = some issue.fault ∧
      issue.offset = before.length ∧ Covers e rest (cell :: after) ∧ 0 < rest.length ∧
      issue.bytePos = e.markLength bytes + (before.map Cell.bytes).flatten.length ∧
      issue.bytePos + rest.length = bytes.length := by
  obtain ⟨before, cell, after, split, faulty, place, position⟩ := of_mem_ofCells member
  have covers := covers_cellsOf e (bytes.drop (e.markLength bytes))
  change Covers e _ (e.decode bytes) at covers
  rw [split] at covers
  obtain ⟨rest, whole, covered⟩ := covers.of_append
  have filled : 0 < rest.length := by
    have first := covered.filled cell List.mem_cons_self
    have length := congrArg List.length covered.flatten_bytes
    rw [List.map_cons, List.flatten_cons, List.length_append] at length
    omega
  have total := congrArg List.length whole
  rw [List.length_drop, List.length_append] at total
  rw [Nat.zero_add] at place
  exact ⟨before, cell, after, rest, split, faulty, place, covered, filled, position, by omega⟩

/-- Every buffer that is decoded accounts for all of its bytes. -/
theorem decoding_accounts_for_every_byte (name : String) (e : Encoding) (bytes : List UInt8) :
    ∃ spans, (decode name e bytes).AccountsFor e bytes spans := by
  have covers := covers_cellsOf e (bytes.drop (e.markLength bytes))
  change Covers e _ (e.decode bytes) at covers
  refine ⟨(e.decode bytes).map Cell.bytes, covers.flatten_bytes, ?_, ?_, ?_, ?_, ?_, ?_⟩
  · rw [decode, List.length_map, List.length_map]
  · intro i c span here spanned
    rw [decode, List.getElem?_map, Option.map_eq_some_iff] at here
    obtain ⟨cell, found, rfl⟩ := here
    rw [List.getElem?_map, found, Option.map_some, Option.some.injEq] at spanned
    rw [faultAt?_decode, found, Option.bind_some, ← spanned]
    exact covers.stands cell (List.mem_of_getElem? found)
  · intro issue member
    obtain ⟨before, cell, after, rest, split, _, place, _, _, position, _⟩ := of_mem_issues member
    constructor
    · rw [decode, List.length_map, split, List.length_append, List.length_cons]
      omega
    · rw [position, place, split, List.map_append, List.take_left' (List.length_map _)]
  · exact ofCells_pairwise covers.filled
  · intro issue member odd
    obtain ⟨before, cell, after, rest, _, faulty, _, covered, _, _, total⟩ := of_mem_issues member
    obtain ⟨_, _, _, last, _⟩ := covered.of_cons
    rw [← total, last (faulty.trans (congrArg some odd))]
  · intro issue member truncated
    obtain ⟨before, cell, after, rest, _, faulty, _, covered, _, _, total⟩ := of_mem_issues member
    obtain ⟨_, _, _, _, near⟩ := covered.of_cons
    have few := near (faulty.trans (congrArg some truncated))
    omega

end Buffer
end Highlighter
