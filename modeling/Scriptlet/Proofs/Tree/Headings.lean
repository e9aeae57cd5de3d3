import Mathlib.Data.List.Basic
import Scriptlet.Proofs.Text.Numeral
import Scriptlet.Proofs.Text.Quoted
import Scriptlet.Proofs.Tree.Kinds
import Scriptlet.Tree.Listing

/-!
# Headings

A heading is the line of an outline that stands for one node. It can be read back whatever follows
it: it ends at its line break, its indentation gives the depth of the node, its first word the kind,
and what follows a tab the payload. The payload is known by its written form, since texts are quoted
and numbers and truth values are not.
-/

namespace Scriptlet

/-! ## Written payloads -/

theorem Relation.symbol_injective : Function.Injective Relation.symbol := by
  intro left right same
  cases left <;> cases right <;> first | rfl | exact absurd same (by decide)

namespace Scalar

theorem mem_toString_int
    {number : Int} {c : Char}
    (member : c ∈ (toString number).toList) :
    c = '-' ∨ c.isDigit = true := by
  rw [Int.toString_eq_repr, Int.repr_eq_if] at member
  split at member
  · exact .inr (Text.isDigit_of_mem_repr member)
  · rw [String.toList_append] at member
    rcases List.mem_append.1 member with sign | digit
    · exact .inl (List.mem_singleton.1 sign)
    · exact .inr (Text.isDigit_of_mem_repr digit)

/-- The decimal text of an integer gives it back: a minus is told from a digit, and the digits are
read back. -/
theorem toString_int_injective : Function.Injective (toString : Int → String) := by
  have readBack {left right : Nat} (same : left.repr = right.repr) : left = right := by
    have sameDigits := congrArg String.toList same
    rw [Nat.toList_repr, Nat.toList_repr] at sameDigits
    rw [← @Nat.ofDigitChars_ten_toDigits left, sameDigits, Nat.ofDigitChars_ten_toDigits]
  have unsigned (value : Nat) : '-' ∉ value.repr.toList :=
    fun member => absurd (Text.isDigit_of_mem_repr member) (by decide)
  intro left right same
  rw [Int.toString_eq_repr, Int.toString_eq_repr, Int.repr_eq_if, Int.repr_eq_if] at same
  split at same
  · split at same
    · have sameNumber := readBack same
      omega
    · exact absurd (by simp [same]) (unsigned left.toNat)
  · split at same
    · exact absurd (by simp [← same]) (unsigned right.toNat)
    · have sameNumber := readBack ((String.append_right_inj _).1 same)
      omega

/-- Whether a scalar is a text, an integer or a truth value. -/
def isLiteral : Scalar → Bool
  | object _ => false
  | _ => true

theorem newline_notMem_shown
    {scalar : Scalar}
    (literal : scalar.isLiteral = true) :
    '\n' ∉ scalar.shown.toList := by
  cases scalar with
  | text content => exact Text.newline_notMem_quote content
  | int number =>
      intro member
      exact absurd (mem_toString_int member) (by decide)
  | bool truth => cases truth <;> decide
  | object carried => cases literal

/-- A quoted text is told from a number or a truth value by its delimiter. -/
theorem text_shown_ne
    (content : String) (scalar : Scalar)
    (counts : scalar.number?.isSome = true) :
    (text content).shown ≠ scalar.shown := by
  intro same
  have isDelimiter := Text.delimiterFor_mem content.toList
  have member : Text.delimiterFor content.toList ∈ scalar.shown.toList := by
    rw [← same, shown, Text.quote, String.toList_ofList, Text.quoteChars, List.cons_append]
    exact List.mem_cons_self
  generalize Text.delimiterFor content.toList = delimiter at isDelimiter member
  simp only [List.mem_cons, List.not_mem_nil, or_false] at isDelimiter
  cases scalar with
  | text other => cases counts
  | int number =>
      have spelled := mem_toString_int member
      rcases isDelimiter with rfl | rfl
      · exact absurd spelled (by decide)
      · exact absurd spelled (by decide)
  | bool truth =>
      rcases isDelimiter with rfl | rfl
      · cases truth <;> exact absurd member (by decide)
      · cases truth <;> exact absurd member (by decide)
  | object carried => cases counts

theorem int_shown_ne (number : Int) (truth : Bool) :
    (int number).shown ≠ (bool truth).shown := by
  intro same
  have letter : 'e' ∈ (bool truth).shown.toList := by
    cases truth <;> decide
  rw [← same] at letter
  exact absurd (mem_toString_int letter) (by decide)

theorem eq_of_shown_eq
    {left right : Scalar}
    (leftLiteral : left.isLiteral = true)
    (rightLiteral : right.isLiteral = true)
    (same : left.shown = right.shown) :
    left = right := by
  cases left with
  | object carried => cases leftLiteral
  | text content =>
      cases right with
      | object carried => cases rightLiteral
      | text other => rw [Text.quote_injective same]
      | int number => exact absurd same (text_shown_ne content _ rfl)
      | bool truth => exact absurd same (text_shown_ne content _ rfl)
  | int number =>
      cases right with
      | object carried => cases rightLiteral
      | text content => exact absurd same.symm (text_shown_ne content _ rfl)
      | int other => rw [toString_int_injective same]
      | bool truth => exact absurd same (int_shown_ne number truth)
  | bool truth =>
      cases right with
      | object carried => cases rightLiteral
      | text content => exact absurd same.symm (text_shown_ne content _ rfl)
      | int number => exact absurd same.symm (int_shown_ne number truth)
      | bool other =>
          cases truth <;> cases other <;> first | rfl | exact absurd same (by decide)

end Scalar

namespace Payload

theorem isLiteral_of_carries
    {kind : Kind} {carried : Scalar}
    (carries : kind.Carries (some (.scalar carried))) :
    carried.isLiteral = true := by
  cases carried with
  | object carried => exact carries.elim
  | text content => rfl
  | int number => rfl
  | bool truth => rfl

theorem newline_notMem_outlined
    {kind : Kind} {payload : Payload}
    (carries : kind.Carries (some payload)) :
    '\n' ∉ payload.outlined.toList := by
  cases payload with
  | scalar carried => exact Scalar.newline_notMem_shown (isLiteral_of_carries carries)
  | relation carried => exact Text.newline_notMem_quote _

theorem eq_of_outlined_eq
    {kind : Kind} {left right : Payload}
    (leftCarried : kind.Carries (some left))
    (rightCarried : kind.Carries (some right))
    (same : left.outlined = right.outlined) :
    left = right := by
  have apart
      {carried : Scalar} {relation : Relation}
      (ofScalar : kind.Carries (some (.scalar carried)))
      (ofRelation : kind.Carries (some (.relation relation))) :
      False := by
    cases carried with
    | object carried => exact ofScalar
    | text content => exact ofScalar ofRelation
    | int number => exact ofScalar ofRelation
    | bool truth => exact ofScalar ofRelation
  cases left with
  | scalar leftScalar =>
      cases right with
      | scalar rightScalar =>
          rw [Scalar.eq_of_shown_eq (isLiteral_of_carries leftCarried)
            (isLiteral_of_carries rightCarried) same]
      | relation relation => exact (apart leftCarried rightCarried).elim
  | relation leftRelation =>
      cases right with
      | scalar scalar => exact (apart rightCarried leftCarried).elim
      | relation rightRelation =>
          rw [Relation.symbol_injective (Text.quote_injective same)]

end Payload

/-! ## Headings and their lines -/

/-- The kind and payload of a node and the depth at which it stands. -/
structure Heading where
  depth : Nat
  kind : Kind
  payload : Option Payload

namespace Heading

def margin (depth : Nat) : List Char :=
  List.replicate (2 * depth) ' '

/-- The payload in a line, behind a tab. -/
def appendix : Option Payload → List Char
  | none => []
  | some carried => '\t' :: carried.outlined.toList

/-- A line without its line break. -/
def body (heading : Heading) : List Char :=
  margin heading.depth ++ (heading.kind.name.toList ++ appendix heading.payload)

def line (heading : Heading) : List Char :=
  heading.body ++ ['\n']

def isWritable (heading : Heading) : Bool :=
  Payload.isWritable heading.payload

end Heading

/-- What stands before the first character that a test refuses is unique. -/
theorem append_cons_inj_of_all
    {test : Char → Bool} {left right rest more : List Char} {c d : Char}
    (leftPasses : ∀ c ∈ left, test c = true)
    (rightPasses : ∀ c ∈ right, test c = true)
    (refused : test c = false)
    (otherRefused : test d = false)
    (same : left ++ c :: rest = right ++ d :: more) :
    left = right ∧ c :: rest = d :: more := by
  have sameFront := congrArg (List.takeWhile test) same
  rw [List.takeWhile_append_of_pos leftPasses, List.takeWhile_append_of_pos rightPasses,
    List.takeWhile_cons_of_neg (by simp [refused]),
    List.takeWhile_cons_of_neg (by simp [otherRefused]), List.append_nil,
    List.append_nil] at sameFront
  rw [sameFront] at same
  exact ⟨sameFront, List.append_cancel_left same⟩

namespace Heading

theorem newline_notMem_body
    {heading : Heading}
    (carries : heading.kind.Carries heading.payload) :
    '\n' ∉ heading.body := by
  have inName : '\n' ∉ heading.kind.name.toList :=
    fun member => absurd (Kind.name_solid member) (by decide)
  have inAppendix : '\n' ∉ appendix heading.payload := by
    cases payload : heading.payload with
    | none => exact List.not_mem_nil
    | some carried =>
        rw [payload] at carries
        simp [appendix, Payload.newline_notMem_outlined carries]
  simp [body, margin, inName, inAppendix]

/-- The indentation of a line ends where the name of its kind starts. -/
theorem body_inj
    {left right : Heading}
    (same : left.body = right.body) :
    left.depth = right.depth ∧
      left.kind.name.toList ++ appendix left.payload =
        right.kind.name.toList ++ appendix right.payload := by
  have blanks (depth : Nat) : ∀ c ∈ margin depth, (c == ' ') = true := by
    simp [margin]
  have firstLetter (kind : Kind) :
      ∃ first others, kind.name.toList = first :: others ∧ (first == ' ') = false := by
    obtain ⟨first, others, spelled⟩ := List.exists_cons_of_ne_nil kind.name_ne_nil
    have solid : first ∉ [' ', '\t', '\n'] := Kind.name_solid (spelled ▸ List.mem_cons_self)
    refine ⟨first, others, spelled, ?_⟩
    simp only [List.mem_cons, not_or] at solid
    simpa using solid.1
  obtain ⟨leftFirst, leftOthers, leftSpelled, leftSolid⟩ := firstLetter left.kind
  obtain ⟨rightFirst, rightOthers, rightSpelled, rightSolid⟩ := firstLetter right.kind
  rw [body, body, leftSpelled, rightSpelled, List.cons_append, List.cons_append] at same
  obtain ⟨sameMargin, sameRest⟩ :=
    append_cons_inj_of_all (blanks _) (blanks _) leftSolid rightSolid same
  have sameWidth := congrArg List.length sameMargin
  rw [margin, margin, List.length_replicate, List.length_replicate] at sameWidth
  rw [leftSpelled, rightSpelled, List.cons_append, List.cons_append]
  exact ⟨by omega, sameRest⟩

/-- The name of a kind ends at the tab before the payload, or else with the line. -/
theorem name_append_appendix_inj
    {left right : Kind} {leftPayload rightPayload : Option Payload}
    (same :
      left.name.toList ++ appendix leftPayload = right.name.toList ++ appendix rightPayload) :
    left = right ∧ leftPayload.map Payload.outlined = rightPayload.map Payload.outlined := by
  have word (kind : Kind) : ∀ c ∈ kind.name.toList, (c != '\t') = true := by
    intro c member
    have solid := Kind.name_solid member
    simp only [List.mem_cons, not_or] at solid
    simpa using solid.2.1
  have tabless (kind : Kind) : '\t' ∉ kind.name.toList :=
    fun member => absurd (Kind.name_solid member) (by decide)
  cases leftPayload with
  | none =>
      cases rightPayload with
      | none =>
          rw [appendix, List.append_nil, List.append_nil] at same
          exact ⟨Kind.name_injective (String.toList_injective same), rfl⟩
      | some carried =>
          rw [appendix, appendix, List.append_nil] at same
          exact absurd (by simp [same]) (tabless left)
  | some carried =>
      cases rightPayload with
      | none =>
          rw [appendix, appendix, List.append_nil] at same
          exact absurd (by simp [← same]) (tabless right)
      | some other =>
          obtain ⟨sameName, sameRest⟩ :=
            append_cons_inj_of_all (word left) (word right) rfl rfl same
          have sameShown := String.toList_injective (List.cons.inj sameRest).2
          exact ⟨Kind.name_injective (String.toList_injective sameName), congrArg some sameShown⟩

/-- A heading can be read back whatever follows it. -/
theorem line_append_inj
    {left right : Heading} {rest more : List Char}
    (leftCarries : left.kind.Carries left.payload)
    (rightCarries : right.kind.Carries right.payload)
    (same : left.line ++ rest = right.line ++ more) :
    left = right ∧ rest = more := by
  have unbroken
      {heading : Heading}
      (carries : heading.kind.Carries heading.payload) :
      ∀ c ∈ heading.body, (c != '\n') = true := by
    intro c member
    simpa using fun isBreak : c = '\n' => newline_notMem_body carries (isBreak ▸ member)
  rw [line, line, List.append_assoc, List.append_assoc] at same
  obtain ⟨sameBody, sameRest⟩ :=
    append_cons_inj_of_all (unbroken leftCarries) (unbroken rightCarries) rfl rfl same
  obtain ⟨sameDepth, sameWords⟩ := body_inj sameBody
  obtain ⟨sameKind, sameShown⟩ := name_append_appendix_inj sameWords
  obtain ⟨leftDepth, leftKind, leftPayload⟩ := left
  obtain ⟨rightDepth, rightKind, rightPayload⟩ := right
  simp only at sameDepth sameKind sameShown leftCarries rightCarries
  subst sameDepth sameKind
  refine ⟨?_, (List.cons.inj sameRest).2⟩
  cases leftPayload with
  | none =>
      cases rightPayload with
      | none => rfl
      | some carried => cases sameShown
  | some carried =>
      cases rightPayload with
      | none => cases sameShown
      | some other =>
          rw [Payload.eq_of_outlined_eq leftCarries rightCarries (Option.some.inj sameShown)]

end Heading

end Scriptlet
