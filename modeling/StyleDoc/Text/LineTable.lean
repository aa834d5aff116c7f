import StyleDoc.Text.Utf8

/-!
# Line tables

Where the lines of a text begin, in bytes from its start. The line of an offset is looked up by
halving the table.
-/

namespace StyleDoc.Text

/-- The byte of a line feed. -/
def lineFeedByte : UInt8 := 10

/-- Where the entries with the property end in a part of a table, found by halving the part. -/
def partitionPoint (p : Nat → Bool) (table : Array Nat) (low high : Nat) : Nat :=
  if low < high then
    let middle := low + (high - low) / 2
    if table[middle]?.any p then partitionPoint p table (middle + 1) high
    else partitionPoint p table low middle
  else low
termination_by high - low

theorem pairwise_snd_zipIdx {α : Type} (items : List α) (start : Nat) :
    (items.zipIdx start).Pairwise fun first second => first.2 < second.2 := by
  have numbers : ((items.zipIdx start).map Prod.snd).Pairwise (· < ·) := by
    rw [List.zipIdx_map_snd]
    exact List.pairwise_lt_range' 1
  exact List.pairwise_map.1 numbers

/-- Where the lines of a text begin, in order. -/
structure LineTable where
  starts : Array Nat
  increasing : starts.toList.Pairwise (· < ·)

namespace LineTable

/-- A line begins where the text does and behind every line feed. -/
def ofText (text : List Char) : LineTable where
  starts := (0 :: ((bytes (String.ofList text)).zipIdx.filter fun entry =>
    entry.1 = lineFeedByte).map (·.2 + 1)).toArray
  increasing := by
    refine List.pairwise_cons.2 ⟨fun start member => ?_, ?_⟩
    · obtain ⟨entry, _, rfl⟩ := List.mem_map.1 member
      exact Nat.succ_pos _
    · rw [List.pairwise_map]
      exact ((pairwise_snd_zipIdx _ 0).filter _).imp fun below => Nat.succ_lt_succ below

/-- Number of lines. -/
def size (table : LineTable) : Nat := table.starts.size

/-- The line that holds the byte at `offset`: the last one that does not begin behind it. -/
def lineOf (table : LineTable) (offset : Nat) : Nat :=
  partitionPoint (· ≤ offset) table.starts 0 table.starts.size

end LineTable

end StyleDoc.Text
