import StyleDoc.Proofs.Offsets
import StyleDoc.Proofs.Utf8
import StyleDoc.Text.LineTable

/-!
# Line tables

The line of a byte offset is one more than the number of line feeds among the bytes in front of it.
A table of the offsets at which lines begin tells the same: its entries increase, so those that are
not greater than an offset stand at its front, and halving the table finds where they end.
-/

namespace StyleDoc.Text

/-! ## Line feeds among bytes -/

theorem bytes_ofList (text : List Char) :
    bytes (String.ofList text) = text.flatMap String.utf8EncodeChar := by
  rw [bytes_eq_flatMap, String.toList_ofList]

theorem length_bytes_ofList (text : List Char) :
    (bytes (String.ofList text)).length = byteLength text := by
  rw [bytes_ofList]
  induction text with
  | nil => rfl
  | cons c rest inductionHypothesis =>
    rw [List.flatMap_cons, List.length_append, inductionHypothesis, String.length_utf8EncodeChar,
      byteLength]

/-- A line feed is a byte of its own, and no other character has this byte in its encoding. -/
theorem lineFeedByte_not_mem {c : Char} (other : c ≠ '\n') :
    lineFeedByte ∉ String.utf8EncodeChar c := by
  intro member
  have number : c.val.toNat = lineFeedByte.toNat :=
    toNat_eq_of_mem_utf8EncodeChar (by decide) member
  exact other (Char.ext (UInt32.toNat_inj.1 number))

theorem count_bytes_ofList (text : List Char) :
    (bytes (String.ofList text)).count lineFeedByte = lineFeeds text := by
  rw [bytes_ofList]
  induction text with
  | nil => rfl
  | cons c rest inductionHypothesis =>
    rw [List.flatMap_cons, List.count_append, inductionHypothesis]
    by_cases lineFeed : c = '\n'
    · subst lineFeed
      rw [lineFeeds_lineFeed, Nat.add_comm]
      rfl
    · rw [List.count_eq_zero.2 (lineFeedByte_not_mem lineFeed), lineFeeds_cons lineFeed,
        Nat.zero_add]

/-- The line of an offset, which may also lie inside a character or behind the text. -/
theorem lineAt_eq (text : List Char) (offset : Nat) :
    lineAt text offset = 1 + ((bytes (String.ofList text)).take offset).count lineFeedByte := by
  rw [bytes_ofList]
  fun_induction lineAt text offset with
  | case1 => simp
  | case2 => rfl
  | case3 c rest offset inductionHypothesis =>
    have counted : ((String.utf8EncodeChar c).take (offset + 1)).count lineFeedByte =
        if c = '\n' then 1 else 0 := by
      split
      case isTrue lineFeed =>
        have whole : String.utf8EncodeChar '\n' = [lineFeedByte] := rfl
        rw [lineFeed, whole, List.take_succ_cons, List.take_nil, List.count_singleton_self]
      case isFalse other =>
        exact List.count_eq_zero.2 fun member =>
          lineFeedByte_not_mem other (List.mem_of_mem_take member)
    rw [inductionHypothesis, List.flatMap_cons, List.take_append, String.length_utf8EncodeChar,
      List.count_append, counted, Nat.add_assoc, Nat.add_comm (ite _ _ _)]

/-! ## Searching a table -/

section Search

variable {p : Nat → Bool} {entries : List Nat}

/-- When the entries with the property stand at the front of the table, their number is found in any
part in which they end. -/
theorem partitionPoint_eq {table : Array Nat} {low high count : Nat}
    (divided : ∀ position, table[position]?.any p = true ↔ position < count)
    (above : low ≤ count) (below : count ≤ high) : partitionPoint p table low high = count := by
  fun_induction partitionPoint p table low high with
  | case1 low high _ middle holds inductionHypothesis =>
    exact inductionHypothesis ((divided middle).1 holds) below
  | case2 low high _ middle fails inductionHypothesis =>
    exact inductionHypothesis above
      (Nat.le_of_not_lt fun inside => fails ((divided middle).2 inside))
  | case3 low high ended => omega

theorem getElem?_any_iff_lt_countP
    (front : entries.Pairwise fun first second => p second = true → p first = true)
    (position : Nat) : entries[position]?.any p = true ↔ position < entries.countP p := by
  induction entries generalizing position with
  | nil => simp
  | cons entry rest inductionHypothesis =>
    obtain ⟨first, others⟩ := List.pairwise_cons.1 front
    by_cases holds : p entry = true
    · cases position with
      | zero => simp [holds]
      | succ position => simp [holds, inductionHypothesis others]
    · have none : rest.countP p = 0 :=
        List.countP_eq_zero.2 fun other member found => holds (first other member found)
      cases position with
      | zero => simp [holds, none]
      | succ position => simp [holds, none, inductionHypothesis others]

end Search

/-! ## Tables -/

theorem countP_zipIdx (bytes : List UInt8) (byte : UInt8) (start offset : Nat) :
    ((bytes.zipIdx start).filter fun entry => entry.1 = byte).countP
      (fun entry => entry.2 < start + offset) = (bytes.take offset).count byte := by
  induction bytes generalizing start offset with
  | nil => simp
  | cons first rest inductionHypothesis =>
    cases offset with
    | zero =>
      rw [List.take_zero, List.count_nil, List.countP_eq_zero]
      intro entry member
      have behind := List.le_snd_of_mem_zipIdx (List.mem_filter.1 member).1
      simp
      omega
    | succ offset =>
      have moved := inductionHypothesis (start + 1) offset
      rw [Nat.add_right_comm, Nat.add_assoc] at moved
      rw [List.zipIdx_cons, List.take_succ_cons, List.count_cons]
      by_cases same : first = byte
      · simp [same, moved]
      · simp [same, moved]

namespace LineTable

theorem lineOf_eq_countP (table : LineTable) (offset : Nat) :
    table.lineOf offset = table.starts.toList.countP (· ≤ offset) := by
  have front : table.starts.toList.Pairwise fun first second =>
      decide (second ≤ offset) = true → decide (first ≤ offset) = true :=
    table.increasing.imp fun below within => by simp at within ⊢; omega
  refine partitionPoint_eq (fun position => ?_) (Nat.zero_le _) List.countP_le_length
  rw [← Array.getElem?_toList]
  exact getElem?_any_iff_lt_countP front position

theorem lineOf_ofText (text : List Char) (offset : Nat) :
    (ofText text).lineOf offset = lineAt text offset := by
  have below := countP_zipIdx (bytes (String.ofList text)) lineFeedByte 0 offset
  rw [lineOf_eq_countP, lineAt_eq, ← below, ofText, List.countP_cons_of_pos (by simp),
    List.countP_map, Nat.add_comm]
  refine congrArg (1 + ·) (List.countP_congr fun entry _ => ?_)
  rw [Nat.zero_add]
  exact Iff.rfl

theorem size_ofText (text : List Char) : (ofText text).size = lineCount text := by
  have feeds : ((bytes (String.ofList text)).zipIdx.filter fun entry =>
      entry.1 = lineFeedByte).length = lineFeeds text := by
    conv => rhs; rw [← count_bytes_ofList, ← List.zipIdx_map_fst 0 (bytes (String.ofList text))]
    rw [List.count, List.countP_map, List.countP_eq_length_filter]
    rfl
  rw [size, ofText, List.size_toArray, List.length_cons, List.length_map, feeds, lineCount,
    Nat.add_comm]

end LineTable

/-! ## Lines of offsets -/

/-- How the offsets of a text are numbered by lines. -/
structure NumbersLines (text : List Char) : Prop where
  /-- The table of the text finds the line of every offset. -/
  lookedUp : ∀ offset, (LineTable.ofText text).lineOf offset = lineAt text offset
  size : (LineTable.ofText text).size = lineCount text
  /-- The line is one more than the number of line feeds below the offset. -/
  counted : ∀ offset,
    lineAt text offset = 1 + ((bytes (String.ofList text)).take offset).count lineFeedByte
  monotone : ∀ first second, first ≤ second → lineAt text first ≤ lineAt text second
  positive : ∀ offset, 1 ≤ lineAt text offset
  within : ∀ offset, lineAt text offset ≤ lineCount text
  /-- Behind the text there is only its last line. -/
  last : ∀ offset, byteLength text ≤ offset → lineAt text offset = lineCount text
  /-- Behind the front of the text the lines are numbered on from those of the front. -/
  split : ∀ front rest, front ++ rest = text → ∀ offset,
    lineAt text (byteLength front + offset) = lineAt rest offset + lineFeeds front

theorem numbersLines (text : List Char) : NumbersLines text where
  lookedUp := LineTable.lineOf_ofText text
  size := LineTable.size_ofText text
  counted := lineAt_eq text
  monotone first second below := by
    rw [lineAt_eq, lineAt_eq]
    exact Nat.add_le_add_left ((List.take_sublist_take_left below).count_le _) 1
  positive offset := by
    rw [lineAt_eq]
    exact Nat.le_add_right 1 _
  within offset := by
    rw [lineAt_eq, lineCount, ← count_bytes_ofList]
    exact Nat.add_le_add_left ((List.take_sublist _ _).count_le _) 1
  last offset behind := by
    rw [← length_bytes_ofList] at behind
    rw [lineAt_eq, List.take_of_length_le behind, count_bytes_ofList, lineCount]
  split := by
    rintro front rest rfl offset
    have parts : bytes (String.ofList (front ++ rest)) =
        bytes (String.ofList front) ++ bytes (String.ofList rest) := by
      rw [String.ofList_append, bytes_append]
    rw [lineAt_eq, lineAt_eq, parts, ← length_bytes_ofList, List.take_length_add_append,
      List.count_append, count_bytes_ofList, Nat.add_assoc, Nat.add_comm (lineFeeds front)]

/-- A line feed ends its line, and an offset inside a character has the line of the character. -/
example : [0, 1, 2, 3, 5, 9].map (lineAt "é\nb\n".toList) = [1, 1, 1, 2, 3, 3] := by decide

end StyleDoc.Text
