import StyleDoc.Proofs.Json.Reader

/-!
# Reading what has been written

The reader undoes the printer, in both layouts and at every depth. The written text of a value ends
where the value ends, whatever follows it, except that a number must not be followed by another
digit. So no two values have the same text.
-/

namespace StyleDoc.Json

/-! ## Gaps and marks -/

theorem skipGap_of_not_gap {c : Char} (rest : List Char) (solid : isGap c = false) :
    skipGap (c :: rest) = c :: rest := by
  simp [skipGap, solid]

theorem skipGap_append {gap : List Char} (rest : List Char) (all : ∀ c ∈ gap, isGap c = true) :
    skipGap (gap ++ rest) = skipGap rest :=
  List.dropWhile_append_of_pos all

theorem skipGap_lineBreak (layout : Layout) (depth : Nat) (rest : List Char) :
    skipGap (layout.lineBreak depth ++ rest) = skipGap rest := by
  apply skipGap_append
  cases layout with
  | compact => simp [Layout.lineBreak]
  | pretty =>
    intro c member
    rcases List.mem_cons.1 member with rfl | blank
    · rfl
    · rw [List.eq_of_mem_replicate blank]
      rfl

/-- What the reader finds does not depend on the gap before it. -/
theorem read?_congr (fuel : Nat) {text other : List Char} (same : skipGap text = skipGap other) :
    read? fuel text = read? fuel other := by
  cases fuel with
  | zero => rw [read?, read?]
  | succ fuel => rw [read?, same, ← read?]

theorem readString?_congr {text other : List Char} (same : skipGap text = skipGap other) :
    readString? text = readString? other := by
  unfold readString?
  rw [same]

theorem expect?_lineBreak (layout : Layout) (depth : Nat) {mark c : Char} (rest : List Char)
    (solid : isGap c = false) :
    expect? mark (layout.lineBreak depth ++ c :: rest) = if c = mark then some rest else none := by
  unfold expect?
  rw [skipGap_lineBreak, skipGap_of_not_gap rest solid]

theorem expect?_cons {mark c : Char} (rest : List Char) (solid : isGap c = false) :
    expect? mark (c :: rest) = if c = mark then some rest else none := by
  unfold expect?
  rw [skipGap_of_not_gap rest solid]

/-- The colon leaves the value behind it, in the pretty layout with a space before. -/
theorem expect?_colon (layout : Layout) (written : List Char) :
    ∃ behind, expect? ':' (layout.colon ++ written) = some behind ∧
      skipGap behind = skipGap written := by
  cases layout with
  | compact => exact ⟨written, rfl, rfl⟩
  | pretty => exact ⟨' ' :: written, rfl, rfl⟩

/-! ## Strings -/

theorem hexValue?_hexDigit : ∀ n < 16, hexValue? (hexDigit n) = some n := by decide

/-- The escape of a control character gives its code point. -/
theorem charOfHex?_hexDigit {c : Char} (control : c.toNat < 32) :
    charOfHex? ['0', '0', hexDigit (c.toNat / 16), hexDigit (c.toNat % 16)] = some c := by
  have high := hexValue?_hexDigit (c.toNat / 16) (by omega)
  have low := hexValue?_hexDigit (c.toNat % 16) (by omega)
  have zero : hexValue? '0' = some 0 := by decide
  have code : 16 * (c.toNat / 16) + c.toNat % 16 = c.toNat := Nat.div_add_mod _ _
  have valid : c.toNat.isValidChar := .inl (by omega)
  simp [charOfHex?, high, low, zero, code, valid]

theorem readChars?_plain {c : Char} (rest : List Char) (notQuote : c ≠ '"')
    (notBackslash : c ≠ '\\') (notControl : ¬ c.toNat < 32) :
    readChars? (c :: rest) = (readChars? rest).map fun found => (c :: found.1, found.2) := by
  rw [readChars?]
  · simp [notBackslash, notControl]
  · exact notQuote
  · exact fun _ _ _ _ _ backslash => absurd backslash notBackslash
  · exact fun _ _ backslash => absurd backslash notBackslash

theorem readChars?_escape (c : Char) (rest : List Char) :
    readChars? (escape c ++ rest) =
      (readChars? rest).map fun found => (c :: found.1, found.2) := by
  unfold escape
  split
  case isTrue quote => subst quote; rfl
  split
  case isTrue backslash => subst backslash; rfl
  split
  case isTrue lineFeed => subst lineFeed; rfl
  split
  case isTrue carriageReturn => subst carriageReturn; rfl
  split
  case isTrue tab => subst tab; rfl
  split
  case isTrue backspace => subst backspace; rfl
  split
  case isTrue formFeed => subst formFeed; rfl
  split
  case isTrue control =>
    simp only [List.cons_append, List.nil_append]
    rw [readChars?, charOfHex?_hexDigit control]
    rfl
  case isFalse notQuote notBackslash _ _ _ _ _ notControl =>
    exact readChars?_plain rest notQuote notBackslash notControl

theorem readChars?_flatMap_escape (chars rest : List Char) :
    readChars? (chars.flatMap escape ++ '"' :: rest) = some (chars, rest) := by
  induction chars with
  | nil => rfl
  | cons c chars inductionHypothesis =>
    rw [List.flatMap_cons, List.append_assoc, readChars?_escape, inductionHypothesis]
    rfl

theorem readString?_writeString (text : String) (rest : List Char) :
    readString? (writeString text ++ rest) = some (text, rest) := by
  have quoted : writeString text ++ rest = '"' :: (text.toList.flatMap escape ++ '"' :: rest) := by
    simp [writeString]
  unfold readString?
  rw [quoted, skipGap_of_not_gap _ (by decide)]
  simp only [readChars?_flatMap_escape, Option.map_some, String.ofList_toList]

/-! ## Numbers -/

/-- A text on which a number before it ends. -/
def EndsNumber (rest : List Char) : Prop := rest.head?.all (fun c => !c.isDigit) = true

theorem readDigits?_toDigits (n : Nat) {rest : List Char} (ends : EndsNumber rest) :
    readDigits? (Nat.toDigits 10 n ++ rest) = some (n, rest) := by
  have digits : ∀ c ∈ Nat.toDigits 10 n, c.isDigit = true := fun c member =>
    Nat.isDigit_of_mem_toDigits (by decide) (by decide) member
  -- The digits of the number end where `rest` begins.
  have stop : rest.takeWhile Char.isDigit = [] ∧ rest.dropWhile Char.isDigit = rest := by
    cases rest with
    | nil => exact ⟨rfl, rfl⟩
    | cons c rest =>
      have other : c.isDigit = false := by simpa [EndsNumber] using ends
      simp [other]
  unfold readDigits?
  rw [List.takeWhile_append_of_pos digits, List.dropWhile_append_of_pos digits, stop.1, stop.2,
    List.append_nil]
  split
  case h_1 none => exact absurd none Nat.toDigits_ne_nil
  case h_2 => rw [Nat.ofDigitChars_ten_toDigits]

theorem EndsNumber.cons {c : Char} (rest : List Char) (other : c.isDigit = false) :
    EndsNumber (c :: rest) := by
  simp [EndsNumber, other]

theorem EndsNumber.lineBreak (layout : Layout) (depth : Nat) {c : Char} (rest : List Char)
    (other : c.isDigit = false) : EndsNumber (layout.lineBreak depth ++ c :: rest) := by
  cases layout with
  | compact => exact .cons rest other
  | pretty => exact .cons _ (by decide)

/-! ## Values -/

theorem read?_eq_readScalar? (fuel : Nat) {c : Char} (rest : List Char) (solid : isGap c = false)
    (noList : c ≠ '[') (noObject : c ≠ '{') :
    read? (fuel + 1) (c :: rest) = readScalar? (c :: rest) := by
  rw [read?, skipGap_of_not_gap rest solid]
  split
  case h_1 _ bracket => exact absurd (List.cons.inj bracket).1 noList
  case h_2 _ brace => exact absurd (List.cons.inj brace).1 noObject
  case h_3 => rfl

/-- The characters that neither are a gap nor end a list or an object. -/
def opensValue (c : Char) : Bool := !isGap c && c != ']' && c != '}'

theorem opensValue_of_isDigit {c : Char} (digit : c.isDigit = true) : opensValue c = true := by
  cases opened : opensValue c with
  | true => rfl
  | false =>
    have special : c = ' ' ∨ c = '\n' ∨ c = '\r' ∨ c = '\t' ∨ c = ']' ∨ c = '}' := by
      simp [opensValue, isGap] at opened
      grind
    rcases special with rfl | rfl | rfl | rfl | rfl | rfl <;> exact absurd digit (by decide)

theorem toDigits_eq_cons (n : Nat) :
    ∃ c digits, Nat.toDigits 10 n = c :: digits ∧ c.isDigit = true := by
  cases written : Nat.toDigits 10 n with
  | nil => exact absurd written Nat.toDigits_ne_nil
  | cons c digits =>
    have member : c ∈ Nat.toDigits 10 n := by simp [written]
    exact ⟨c, digits, rfl, Nat.isDigit_of_mem_toDigits (by decide) (by decide) member⟩

theorem write_eq_cons (layout : Layout) (depth : Nat) (value : Json) :
    ∃ c rest, write layout depth value = c :: rest ∧ opensValue c = true := by
  cases value with
  | null => exact ⟨_, _, rfl, by decide⟩
  | bool value => cases value <;> exact ⟨_, _, by rw [write], by decide⟩
  | int value =>
    cases value with
    | ofNat n =>
      obtain ⟨c, digits, written, digit⟩ := toDigits_eq_cons n
      exact ⟨c, digits, by rw [write]; exact written, opensValue_of_isDigit digit⟩
    | negSucc n => exact ⟨_, _, by rw [write]; rfl, by decide⟩
  | str value => exact ⟨_, _, by rw [write]; rfl, by decide⟩
  | arr items =>
    cases items with
    | nil => exact ⟨_, _, by rw [write], by decide⟩
    | cons item items => exact ⟨_, _, by rw [write]; rfl, by decide⟩
  | obj fields =>
    cases fields with
    | nil => exact ⟨_, _, by rw [write], by decide⟩
    | cons field fields => exact ⟨_, _, by rw [write]; rfl, by decide⟩

theorem isGap_of_opensValue {c : Char} (opens : opensValue c = true) : isGap c = false := by
  simp only [opensValue, Bool.and_eq_true, Bool.not_eq_true'] at opens
  exact opens.1.1

theorem readScalar?_of_isDigit {c : Char} (digit : c.isDigit = true) (rest : List Char) :
    readScalar? (c :: rest) =
      (readDigits? (c :: rest)).map fun found => (int found.1, found.2) := by
  have noMark : c ≠ 'n' ∧ c ≠ 't' ∧ c ≠ 'f' ∧ c ≠ '"' ∧ c ≠ '-' := by
    refine ⟨?_, ?_, ?_, ?_, ?_⟩ <;> rintro rfl <;> exact absurd digit (by decide)
  simp [readScalar?, noMark]

theorem readScalar?_toDigits (n : Nat) {rest : List Char} (ends : EndsNumber rest) :
    readScalar? (Nat.toDigits 10 n ++ rest) = some (int n, rest) := by
  obtain ⟨c, digits, written, digit⟩ := toDigits_eq_cons n
  have read := readDigits?_toDigits n ends
  rw [written, List.cons_append] at read ⊢
  rw [readScalar?_of_isDigit digit, read]
  rfl

theorem read?_writeInt (fuel : Nat) (value : Int) {rest : List Char} (ends : EndsNumber rest) :
    read? (fuel + 1) (writeInt value ++ rest) = some (int value, rest) := by
  cases value with
  | ofNat n =>
    obtain ⟨c, digits, written, digit⟩ := toDigits_eq_cons n
    have opened : opensValue c = true := opensValue_of_isDigit digit
    have noList : c ≠ '[' := by rintro rfl; exact absurd digit (by decide)
    have noObject : c ≠ '{' := by rintro rfl; exact absurd digit (by decide)
    have scalar := readScalar?_toDigits n ends
    show read? (fuel + 1) (Nat.toDigits 10 n ++ rest) = _
    rw [written, List.cons_append] at scalar ⊢
    rw [read?_eq_readScalar? _ _ (isGap_of_opensValue opened) noList noObject, scalar]
    rfl
  | negSucc n =>
    show read? (fuel + 1) ('-' :: (Nat.toDigits 10 (n + 1) ++ rest)) = _
    rw [read?_eq_readScalar? _ _ (by decide) (by decide) (by decide)]
    rw [readScalar?, readDigits?_toDigits _ ends]
    rfl

theorem read?_writeString (fuel : Nat) (text : String) (rest : List Char) :
    read? (fuel + 1) (writeString text ++ rest) = some (str text, rest) := by
  have quoted : writeString text ++ rest = '"' :: (text.toList.flatMap escape ++ '"' :: rest) := by
    simp [writeString]
  rw [quoted, read?_eq_readScalar? _ _ (by decide) (by decide) (by decide)]
  rw [readScalar?, readChars?_flatMap_escape]
  simp

/-! ## Parts -/

/-- The end of a list or an object does not come before a part of it. -/
theorem expect?_opensValue {mark c : Char} (opens : opensValue c = true)
    (closing : mark = ']' ∨ mark = '}') (layout : Layout) (depth : Nat) (rest : List Char) :
    expect? mark (layout.lineBreak depth ++ c :: rest) = none := by
  have different : c ≠ mark := by
    rintro rfl
    rcases closing with rfl | rfl <;> cases opens
  rw [expect?_lineBreak _ _ _ (isGap_of_opensValue opens), if_neg different]

section Parts

variable {α : Type} {mark : Char} {part? : List Char → Option (α × List Char)}
  {text : α → List Char} {layout : Layout} {depth fuel : Nat}

/-- The parts behind the first one, as a list or an object has them. -/
def writeMore (layout : Layout) (depth : Nat) (text : α → List Char) (parts : List α) : List Char :=
  parts.flatMap fun part => ',' :: (layout.lineBreak depth ++ text part)

theorem writeItems_eq (layout : Layout) (depth : Nat) (items : List Json) :
    writeItems layout depth items = writeMore layout depth (write layout depth) items := by
  induction items with
  | nil => rfl
  | cons item items inductionHypothesis =>
    rw [writeItems, inductionHypothesis]
    simp [writeMore]

def writeField (layout : Layout) (depth : Nat) (field : String × Json) : List Char :=
  writeString field.1 ++ (layout.colon ++ write layout depth field.2)

theorem writeFields_eq (layout : Layout) (depth : Nat) (fields : List (String × Json)) :
    writeFields layout depth fields = writeMore layout depth (writeField layout depth) fields := by
  induction fields with
  | nil => rfl
  | cons field fields inductionHypothesis =>
    obtain ⟨key, value⟩ := field
    rw [writeFields, inductionHypothesis]
    simp [writeMore, writeField]

theorem length_le_writeMore (parts : List α) :
    parts.length ≤ (writeMore layout depth text parts).length := by
  induction parts with
  | nil => exact Nat.le_refl 0
  | cons part parts inductionHypothesis =>
    unfold writeMore at inductionHypothesis ⊢
    simp only [List.flatMap_cons, List.length_append, List.length_cons]
    omega

theorem length_le_of_mem {first part : α} {parts : List α} (member : part ∈ first :: parts) :
    (text part).length ≤ (text first).length + (writeMore layout depth text parts).length := by
  induction parts generalizing first with
  | nil =>
    rw [List.mem_singleton.1 member]
    exact Nat.le_add_right _ _
  | cons next parts inductionHypothesis =>
    have longer : (writeMore layout depth text (next :: parts)).length =
        (layout.lineBreak depth).length + (text next).length +
          (writeMore layout depth text parts).length + 1 := by
      unfold writeMore
      simp only [List.flatMap_cons, List.length_append, List.length_cons]
      omega
    rcases List.mem_cons.1 member with rfl | later
    · exact Nat.le_add_right _ _
    · have shorter := inductionHypothesis later
      omega

/-- A number that is a part ends where the next part or the closing mark begins. -/
theorem endsNumber_writeMore (closing : mark = ']' ∨ mark = '}') (parts : List α) (outer : Nat)
    (rest : List Char) :
    EndsNumber (writeMore layout depth text parts ++ (layout.lineBreak outer ++ mark :: rest)) := by
  cases parts with
  | nil => exact .lineBreak layout outer rest (by rcases closing with rfl | rfl <;> rfl)
  | cons part parts => exact .cons _ (by decide)

/-- The reader of parts takes the written part off the text, with the line break before it. -/
def ReadsPart (part? : List Char → Option (α × List Char)) (text : α → List Char)
    (layout : Layout) (depth : Nat) (part : α) : Prop :=
  ∀ rest, EndsNumber rest →
    part? (layout.lineBreak depth ++ (text part ++ rest)) = some (part, rest)

theorem readMore?_writeMore (closing : mark = ']' ∨ mark = '}') {parts : List α} (outer : Nat)
    (rest : List Char) (reads : ∀ part ∈ parts, ReadsPart part? text layout depth part)
    (enough : parts.length < fuel) :
    readMore? mark part? fuel
        (writeMore layout depth text parts ++ (layout.lineBreak outer ++ mark :: rest)) =
      some (parts, rest) := by
  induction parts generalizing fuel with
  | nil =>
    obtain ⟨fuel, rfl⟩ := Nat.exists_eq_add_one_of_ne_zero (Nat.ne_of_gt enough)
    have solid : isGap mark = false := by rcases closing with rfl | rfl <;> rfl
    rw [writeMore, List.flatMap_nil, List.nil_append, readMore?, expect?_lineBreak _ _ _ solid]
    simp
  | cons part parts inductionHypothesis =>
    obtain ⟨fuel, rfl⟩ := Nat.exists_eq_add_one_of_ne_zero (Nat.ne_zero_of_lt enough)
    have ends : EndsNumber (writeMore layout depth text parts ++
        (layout.lineBreak outer ++ mark :: rest)) := endsNumber_writeMore closing parts outer rest
    have readPart := reads part List.mem_cons_self _ ends
    have readRest := inductionHypothesis
      (fun other member => reads other (List.mem_cons_of_mem _ member))
      (Nat.lt_of_succ_lt_succ enough)
    have noEnd : mark ≠ ',' := by rcases closing with rfl | rfl <;> decide
    have comma : isGap ',' = false := by decide
    unfold writeMore at readPart readRest ⊢
    rw [List.flatMap_cons, List.cons_append, List.cons_append, List.append_assoc,
      List.append_assoc, readMore?, expect?_cons _ comma, if_neg noEnd.symm]
    simp only [expect?_cons _ comma, if_true, Option.bind_eq_bind, Option.bind_some, readPart,
      readRest]
    rfl

theorem readParts?_cons (closing : mark = ']' ∨ mark = '}') {first : α} {parts : List α}
    (outer : Nat) (rest : List Char)
    (opens : ∃ c more, text first = c :: more ∧ opensValue c = true)
    (reads : ∀ part ∈ first :: parts, ReadsPart part? text layout depth part)
    (enough : parts.length < fuel) :
    readParts? mark part? fuel (layout.lineBreak depth ++ (text first ++
        (writeMore layout depth text parts ++ (layout.lineBreak outer ++ mark :: rest)))) =
      some (first :: parts, rest) := by
  obtain ⟨c, more, same, opened⟩ := opens
  have ends : EndsNumber (writeMore layout depth text parts ++
      (layout.lineBreak outer ++ mark :: rest)) := endsNumber_writeMore closing parts outer rest
  have readFirst := reads first List.mem_cons_self _ ends
  have readRest := readMore?_writeMore closing outer rest
    (fun part member => reads part (List.mem_cons_of_mem _ member)) enough
  have goesOn (behind : List Char) :
      expect? mark (layout.lineBreak depth ++ (text first ++ behind)) = none := by
    rw [same, List.cons_append]
    exact expect?_opensValue opened closing layout depth _
  unfold readParts?
  rw [goesOn]
  simp only [Option.bind_eq_bind, readFirst, Option.bind_some, readRest]
  rfl

end Parts

/-! ## Values -/

/-- With this fuel every value is read whose text has no more characters than that. -/
def ReadsWritten (fuel : Nat) : Prop :=
  ∀ (value : Json) (layout : Layout) (depth : Nat) (rest : List Char), EndsNumber rest →
    (write layout depth value).length ≤ fuel →
      read? fuel (write layout depth value ++ rest) = some (value, rest)

section ReadsWritten

variable {fuel : Nat} {layout : Layout} {depth : Nat}

theorem ReadsWritten.item (reads : ReadsWritten fuel) {item : Json}
    (short : (write layout depth item).length ≤ fuel) :
    ReadsPart (read? fuel) (write layout depth) layout depth item := by
  intro rest ends
  rw [read?_congr fuel (skipGap_lineBreak layout depth _)]
  exact reads item layout depth rest ends short

theorem ReadsWritten.field (reads : ReadsWritten fuel) {field : String × Json}
    (short : (writeField layout depth field).length ≤ fuel) :
    ReadsPart (readField? (read? fuel)) (writeField layout depth) layout depth field := by
  intro rest ends
  obtain ⟨key, value⟩ := field
  have shortValue : (write layout depth value).length ≤ fuel := by
    simp only [writeField, List.length_append] at short
    omega
  have readKey : readString? (layout.lineBreak depth ++ (writeField layout depth (key, value) ++
      rest)) = some (key, layout.colon ++ (write layout depth value ++ rest)) := by
    rw [readString?_congr (skipGap_lineBreak layout depth _), writeField, List.append_assoc,
      readString?_writeString, List.append_assoc]
  obtain ⟨behind, colon, same⟩ := expect?_colon layout (write layout depth value ++ rest)
  have readValue : read? fuel behind = some (value, rest) := by
    rw [read?_congr fuel same]
    exact reads value layout depth rest ends shortValue
  unfold readField?
  rw [readKey]
  simp only [Option.bind_eq_bind, Option.bind_some, colon, readValue]
  rfl

theorem ReadsWritten.list (reads : ReadsWritten fuel) (first : Json) (items : List Json)
    (rest : List Char) (enough : (write layout depth (arr (first :: items))).length ≤ fuel + 1) :
    read? (fuel + 1) (write layout depth (arr (first :: items)) ++ rest) =
      some (arr (first :: items), rest) := by
  have written : write layout depth (arr (first :: items)) =
      '[' :: (layout.lineBreak (depth + 1) ++ (write layout (depth + 1) first ++
        (writeMore layout (depth + 1) (write layout (depth + 1)) items ++
          (layout.lineBreak depth ++ [']'])))) := by
    rw [write, writeItems_eq]
    simp
  rw [written] at enough ⊢
  simp only [List.length_cons, List.length_append] at enough
  -- Every item has a comma or a bracket of its own, so the fuel is enough for their number too.
  have few : items.length < fuel := by
    have fewer : items.length ≤
        (writeMore layout (depth + 1) (write layout (depth + 1)) items).length :=
      length_le_writeMore items
    omega
  have readsItems : ∀ item ∈ first :: items,
      ReadsPart (read? fuel) (write layout (depth + 1)) layout (depth + 1) item := by
    intro item member
    apply reads.item
    have shorter : (write layout (depth + 1) item).length ≤
        (write layout (depth + 1) first).length +
          (writeMore layout (depth + 1) (write layout (depth + 1)) items).length :=
      length_le_of_mem member
    omega
  have found := readParts?_cons (.inl rfl) depth rest (write_eq_cons layout (depth + 1) first)
    readsItems few
  simp only [List.cons_append, List.append_assoc, List.nil_append]
  rw [read?, skipGap_of_not_gap _ (by decide)]
  simp only [found, Option.map_some]

theorem ReadsWritten.object (reads : ReadsWritten fuel) (first : String × Json)
    (fields : List (String × Json)) (rest : List Char)
    (enough : (write layout depth (obj (first :: fields))).length ≤ fuel + 1) :
    read? (fuel + 1) (write layout depth (obj (first :: fields)) ++ rest) =
      some (obj (first :: fields), rest) := by
  have written : write layout depth (obj (first :: fields)) =
      '{' :: (layout.lineBreak (depth + 1) ++ (writeField layout (depth + 1) first ++
        (writeMore layout (depth + 1) (writeField layout (depth + 1)) fields ++
          (layout.lineBreak depth ++ ['}'])))) := by
    obtain ⟨key, value⟩ := first
    rw [write, writeFields_eq]
    simp [writeField]
  rw [written] at enough ⊢
  simp only [List.length_cons, List.length_append] at enough
  have few : fields.length < fuel := by
    have fewer : fields.length ≤
        (writeMore layout (depth + 1) (writeField layout (depth + 1)) fields).length :=
      length_le_writeMore fields
    omega
  have readsFields : ∀ field ∈ first :: fields, ReadsPart (readField? (read? fuel))
      (writeField layout (depth + 1)) layout (depth + 1) field := by
    intro field member
    apply reads.field
    have shorter : (writeField layout (depth + 1) field).length ≤
        (writeField layout (depth + 1) first).length +
          (writeMore layout (depth + 1) (writeField layout (depth + 1)) fields).length :=
      length_le_of_mem member
    omega
  have opens : ∃ c more, writeField layout (depth + 1) first = c :: more ∧ opensValue c = true :=
    ⟨'"', _, rfl, by decide⟩
  have found := readParts?_cons (.inr rfl) depth rest opens readsFields few
  simp only [List.cons_append, List.append_assoc, List.nil_append]
  rw [read?, skipGap_of_not_gap _ (by decide)]
  simp only [found, Option.map_some]

end ReadsWritten

/-- The text of a part is shorter than that of the whole, so one step less is enough for it. -/
theorem readsWritten (fuel : Nat) : ReadsWritten fuel := by
  induction fuel with
  | zero =>
    intro value layout depth rest _ enough
    obtain ⟨c, more, same, _⟩ := write_eq_cons layout depth value
    rw [same] at enough
    cases enough
  | succ fuel inductionHypothesis =>
    intro value layout depth rest ends enough
    cases value with
    | null => rfl
    | bool value => cases value <;> rfl
    | int value => rw [write, read?_writeInt fuel value ends]
    | str text => rw [write, read?_writeString]
    | arr items =>
      cases items with
      | nil => rfl
      | cons first items => exact inductionHypothesis.list first items rest enough
    | obj fields =>
      cases fields with
      | nil => rfl
      | cons first fields => exact inductionHypothesis.object first fields rest enough

/-- The written text of a value denotes that value, also with gaps behind it. -/
theorem denoted?_render_append (layout : Layout) (value : Json) {gap : String}
    (all : ∀ c ∈ gap.toList, isGap c = true) :
    denoted? (value.render layout ++ gap) = some value := by
  have ends : EndsNumber gap.toList := by
    cases gapChars : gap.toList with
    | nil => rfl
    | cons c rest =>
      apply EndsNumber.cons
      have gapFirst := all c (by simp [gapChars])
      simp only [isGap, Bool.or_eq_true, beq_iff_eq] at gapFirst
      rcases gapFirst with ((rfl | rfl) | rfl) | rfl <;> decide
  have skipped : skipGap gap.toList = [] := by
    simpa [skipGap] using skipGap_append [] all
  have read := readsWritten (write layout 0 value ++ gap.toList).length value layout 0 gap.toList
    ends (by rw [List.length_append]; exact Nat.le_add_right _ _)
  unfold denoted? render
  rw [String.toList_append, String.toList_ofList, read]
  simp [skipped]

theorem denoted?_render (layout : Layout) (value : Json) :
    denoted? (value.render layout) = some value := by
  simpa using denoted?_render_append layout value (by simp : ∀ c ∈ "".toList, isGap c = true)

theorem denoted?_render_lineFeed (layout : Layout) (value : Json) :
    denoted? (value.render layout ++ "\n") = some value := by
  apply denoted?_render_append
  intro c member
  have lineFeed : c = '\n' := by simpa using member
  rw [lineFeed]
  rfl

theorem render_injective (layout : Layout) : Function.Injective (render layout) := by
  intro first second same
  have denoted := denoted?_render layout first
  rw [same, denoted?_render] at denoted
  exact (Option.some.inj denoted).symm

end StyleDoc.Json
