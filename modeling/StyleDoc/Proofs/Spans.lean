import StyleDoc.Proofs.Bodies

/-!
# Spans of blocks

A span that is found lies in the text and ends where two characters meet, so that the body can be
cut out of the text. The block with its braces decides alone about the span: it is found in the same
way between any other texts, and no shorter text has it.
-/

namespace StyleDoc.Block

open Text

/-! ## What a reader has read -/

section Reading

variable {mode : Mode} {inner : Nat}

/-- The body that has been read stays the same when another text follows its brace. -/
theorem bodyFrom?_local {text body behind : List Char}
    (found : bodyFrom? mode inner text = some (body, behind)) (other : List Char) :
    bodyFrom? mode inner (body ++ '}' :: other) = some (body, other) := by
  induction text generalizing mode inner body with
  | nil => cases found
  | cons c rest inductionHypothesis =>
    cases open? : mode.inner? inner c with
    | none =>
      rw [bodyFrom?_of_closes open?] at found
      cases found
      -- Only a closing brace stops the reader, so the body ends before it whatever follows.
      obtain rfl := Mode.eq_of_inner?_eq_none open?
      exact bodyFrom?_of_closes open? other
    | some next =>
      rw [bodyFrom?_of_goesOn open?] at found
      obtain ⟨⟨later, behind'⟩, inside, same⟩ := Option.map_eq_some_iff.1 found
      cases same
      rw [List.cons_append, bodyFrom?_of_goesOn open?, inductionHypothesis inside]
      rfl

/-- Nothing is found in the beginning of a body. -/
theorem bodyFrom?_eq_none_of_prefix {text body behind shorter : List Char}
    (found : bodyFrom? mode inner text = some (body, behind)) (isPrefix : shorter <+: body) :
    bodyFrom? mode inner shorter = none := by
  cases early : bodyFrom? mode inner shorter with
  | none => rfl
  | some parts =>
    exfalso
    obtain ⟨first, left⟩ := parts
    obtain ⟨more, rfl⟩ := isPrefix
    -- What is found early is found in the whole text too, and it is shorter than the body.
    have parts : first ++ '}' :: left = shorter := bodyFrom?_eq early
    have whole := bodyFrom?_local found []
    have again := bodyFrom?_local early (left ++ more ++ ['}'])
    rw [← parts] at whole
    simp only [List.append_assoc, List.cons_append] at whole again
    rw [again] at whole
    have same : first = first ++ '}' :: (left ++ more) := by
      simpa using congrArg (fun found => found.map (·.1)) whole
    simpa using congrArg List.length same

end Reading

/-! ## Spans -/

theorem span?_behind (front rest : List Char) :
    span? (front ++ '{' :: rest) (byteLength front) = (body? rest).map fun body =>
      (byteLength front + 1, byteLength front + 1 + byteLength body) := by
  have found : (fromByte? (front ++ '{' :: rest) (byteLength front)).bind first? =
      (body? rest).map fun body => ([], body) := by
    simpa using first?_behind front List.not_mem_nil rest
  unfold span?
  rw [found]
  cases body? rest <;> rfl

theorem span?_eq_some {text : List Char} {offset start stop : Nat}
    (found : span? text offset = some (start, stop)) :
    ∃ front between body behind,
      front ++ between ++ '{' :: body ++ '}' :: behind = text ∧ byteLength front = offset ∧
        '{' ∉ between ∧ start = byteLength (front ++ between) + 1 ∧
        stop = start + byteLength body ∧ bodyAt text offset = body ∧
        bodyFrom? (.code '{') 0 (body ++ '}' :: behind) = some (body, behind) := by
  unfold span? at found
  split at found
  case h_1 => cases found
  case h_2 between body first =>
    cases found
    obtain ⟨rest, from?, block⟩ := Option.bind_eq_some_iff.1 first
    obtain ⟨front, rfl, rfl⟩ := fromByte?_eq_some from?
    obtain ⟨firstBrace, behind, rfl, closed⟩ := first?_eq block
    have read : bodyAt (front ++ (between ++ '{' :: body ++ '}' :: behind)) (byteLength front) =
        body := by
      rw [bodyAt, first]
      rfl
    refine ⟨front, between, body, behind, by simp, rfl, firstBrace, ?_, rfl, read, closed⟩
    rw [byteLength_append]

/-- The block whose body lies between `start` and `stop` is the first one at or behind `offset`. The
offsets are those of whole characters in the text, and they are found for the block alone: with any
texts around it in place of the others, and in nothing less than the whole block. -/
structure SpanOf (text : List Char) (offset start stop : Nat) (body : List Char) : Prop where
  ordered : offset < start ∧ start ≤ stop ∧ stop < byteLength text
  first : ∃ between, slice? text offset (start - 1) = some between ∧ '{' ∉ between
  opens : slice? text (start - 1) start = some ['{']
  inside : slice? text start stop = some body
  closes : slice? text stop (stop + 1) = some ['}']
  everywhere : ∀ front behind,
    span? (front ++ ('{' :: body ++ ['}']) ++ behind) (byteLength front) =
      some (byteLength front + 1, byteLength front + 1 + (stop - start))
  again : ∀ behind, bodyAt ('{' :: body ++ '}' :: behind) 0 = body
  shortest : ∀ shorter, shorter <+: '{' :: body ++ ['}'] → shorter ≠ '{' :: body ++ ['}'] →
    span? shorter 0 = none

/-- Every span that is found is that of a block, and the body at the offset is what it cuts out. -/
theorem spanOf_of_span?_eq_some {text : List Char} {offset start stop : Nat}
    (found : span? text offset = some (start, stop)) :
    SpanOf text offset start stop (bodyAt text offset) := by
  obtain ⟨front, between, body, behind, rfl, rfl, firstBrace, rfl, rfl, read, closed⟩ :=
    span?_eq_some found
  rw [read]
  have closedBy : ∀ other, body? (body ++ '}' :: other) = some body := by
    intro other
    rw [body?, bodyFrom?_local closed other]
    rfl
  constructor
  case ordered =>
    have oneByte : '{'.utf8Size = 1 ∧ '}'.utf8Size = 1 := ⟨rfl, rfl⟩
    simp only [byteLength_append, byteLength]
    omega
  case first =>
    refine ⟨between, slice?_of_parts (List.append_assoc _ _ _).symm rfl ?_, firstBrace⟩
    rw [byteLength_append, Nat.add_sub_cancel]
  case opens =>
    have parts : front ++ between ++ ['{'] ++ (body ++ '}' :: behind) =
        front ++ between ++ '{' :: body ++ '}' :: behind := by simp
    exact slice?_of_parts parts rfl rfl
  case inside =>
    have parts : front ++ between ++ ['{'] ++ body ++ '}' :: behind =
        front ++ between ++ '{' :: body ++ '}' :: behind := by simp
    refine slice?_of_parts parts ?_ rfl
    rw [byteLength_append]
    rfl
  case closes =>
    have parts : front ++ between ++ '{' :: body ++ ['}'] ++ behind =
        front ++ between ++ '{' :: body ++ '}' :: behind := by simp
    have oneByte : '{'.utf8Size = 1 := rfl
    refine slice?_of_parts parts ?_ rfl
    rw [byteLength_append _ ('{' :: body), byteLength, oneByte, Nat.add_assoc]
  case everywhere =>
    intro before other
    have parts : before ++ ('{' :: body ++ ['}']) ++ other =
        before ++ '{' :: (body ++ '}' :: other) := by simp
    rw [parts, span?_behind, closedBy, Option.map_some, Nat.add_sub_cancel_left]
  case again =>
    intro other
    rw [List.cons_append, bodyAt_zero, closedBy, Option.getD_some]
  case shortest =>
    intro shorter isPrefix proper
    cases shorter with
    | nil => rfl
    | cons c shorter =>
      obtain ⟨rfl, inside⟩ := List.cons_prefix_cons.1 isPrefix
      have unfinished : shorter <+: body := by
        rcases List.prefix_concat_iff.1 inside with whole | part
        · exact absurd (congrArg ('{' :: ·) whole) proper
        · exact part
      have nothing := bodyFrom?_eq_none_of_prefix closed unfinished
      have found : span? ('{' :: shorter) 0 = (body? shorter).map _ := span?_behind [] shorter
      rw [found, body?, nothing]
      rfl

/-- A brace in a line comment of the block, and another one behind the block. -/
theorem spanOf_commented :
    span? ['ä', '{', '/', '/', '}', '\n', '}', '}'] 0 = some (3, 7) ∧
      SpanOf ['ä', '{', '/', '/', '}', '\n', '}', '}'] 0 3 7 ['/', '/', '}', '\n'] := by
  have found : span? ['ä', '{', '/', '/', '}', '\n', '}', '}'] 0 = some (3, 7) := by decide
  exact ⟨found, spanOf_of_span?_eq_some found⟩

end StyleDoc.Block
