import Scriptlet.Proofs.Lexing.Locality
import Scriptlet.Proofs.Parsing.Reading

/-!
# Layout

Layout may be put before the first token of a program and behind every token, and the program stays
the same: spaces in any number, or a comment between a blank and a line break. The tokens before
that place are read as before because a space follows them, and those behind it because layout is
skipped like any gap.
-/

namespace Scriptlet

/-- Text that may be put between tokens: spaces, or a comment between a blank and a line break. -/
inductive Layout : List Char → Prop
  | spaces {text : List Char} :
      (∀ c ∈ text, Lexing.isSpace c = true) → Layout text
  | remark {line : List Char} :
      '\n' ∉ line → Layout (' ' :: '/' :: '/' :: (line ++ ['\n']))

namespace Layout

theorem gap_spaces_append
    {text : List Char} (rest : List Char)
    (spaces : ∀ c ∈ text, Lexing.isSpace c = true) :
    Lexing.gap (text ++ rest) = text ++ Lexing.gap rest := by
  induction text with
  | nil => rfl
  | cons c text inductionHypothesis =>
      obtain ⟨space, others⟩ := List.forall_mem_cons.1 spaces
      rw [List.cons_append, Lexing.gap_space_cons _ space, inductionHypothesis others,
        List.cons_append]

theorem gap_comment_append
    {line : List Char} (rest : List Char)
    (oneLine : '\n' ∉ line) :
    Lexing.gap ('/' :: '/' :: (line ++ '\n' :: rest)) =
      '/' :: '/' :: (line ++ '\n' :: Lexing.gap rest) := by
  have continues : ∀ c ∈ line, (c != '\n') = true := by
    intro c member
    simpa using fun same : c = '\n' => oneLine (same ▸ member)
  have opened :
      Lexing.gap ('/' :: '/' :: (line ++ '\n' :: rest)) =
        '/' :: '/' :: Lexing.gapFrom true (line ++ '\n' :: rest) := rfl
  have closed : Lexing.gapFrom false ('\n' :: rest) = '\n' :: Lexing.gap rest := rfl
  rw [opened, Lexing.gapFrom_true, List.takeWhile_append_of_pos continues,
    List.dropWhile_append_of_pos continues]
  simp [closed]

/-- Layout is part of the gap that it stands before. -/
theorem gap_append
    {layout : List Char} (rest : List Char)
    (isLayout : Layout layout) :
    Lexing.gap (layout ++ rest) = layout ++ Lexing.gap rest := by
  cases isLayout with
  | spaces spaces => exact gap_spaces_append rest spaces
  | remark oneLine =>
      have commented := gap_comment_append rest oneLine
      rw [List.cons_append, Lexing.gap_space_cons _ (by decide)]
      simpa using commented

theorem afterGap_append
    {layout : List Char} (rest : List Char)
    (isLayout : Layout layout) :
    Lexing.afterGap (layout ++ rest) = Lexing.afterGap rest := by
  rw [Lexing.afterGap, isLayout.gap_append, List.length_append, ← List.drop_drop, List.drop_left,
    ← Lexing.afterGap]

theorem parted_append
    {layout : List Char} (rest : List Char)
    (isLayout : Layout layout)
    (nonempty : layout ≠ []) :
    Lexing.Parted (layout ++ rest) := by
  intro c first
  rw [List.head?_append_of_ne_nil _ nonempty] at first
  cases isLayout with
  | spaces spaces => exact spaces c (List.mem_of_mem_head? first)
  | remark _ =>
      cases first
      decide

end Layout

/-! ## Tokens around layout -/

/-- A lexeme is read as before when something that starts with a space takes the place of the text
behind it, or behind some front of that text. -/
theorem Reads.next_of_parted
    {state : Automaton.State} {states : List Automaton.State} {lexeme : Lexeme}
    {lexemes : List Lexeme} {text front back other : List Char}
    (scanned :
      Lexing.scan (Automaton.allows state) (Lexing.afterGap text) =
        some (lexeme.1, lexeme.2.toList))
    (split : Lexing.afterGap text = lexeme.2.toList ++ front ++ back)
    (parted : Lexing.Parted other)
    (reads : Reads states lexemes (front ++ other)) :
    Reads (state :: states) (lexeme :: lexemes)
      (Lexing.gap text ++ (lexeme.2.toList ++ (front ++ other))) := by
  have present : lexeme.2.toList ≠ [] := (Lexing.scan_prefix_of_eq_some scanned).1
  have inside : lexeme.2.toList <+: lexeme.2.toList ++ front := List.prefix_append _ _
  have skipped := Lexing.afterGap_append_of_parted split (inside.ne_nil present) parted
  rw [split] at scanned
  rw [List.append_assoc] at skipped
  refine .next ?_ ?_
  · rw [skipped, ← List.append_assoc]
    exact Lexing.scan_append_of_parted scanned inside parted
  · rw [skipped, List.drop_left]
    exact reads

/-- Layout behind a token leaves the lexemes as they are. The induction follows the tokens: the one
that the layout stands behind is read before a space, and each earlier one lies, with all that
stands between, in a front of the text that ends before a space. -/
theorem Cut.exists_reads_insert
    {states : List Automaton.State} {place : Nat} {tokens : List Token} {token : Token}
    {text layout : List Char}
    (cut : Cut states place tokens text)
    (isLayout : Layout layout)
    (nonempty : layout ≠ [])
    (member : token ∈ tokens) :
    ∃ before after,
      text = before ++ after ∧ token.stop = place + before.length ∧
        Reads states (tokens.map Token.lexeme) (before ++ (layout ++ after)) := by
  induction cut with
  | last _ => cases member
  | @next state states place first tokens text scanned starts rest inductionHypothesis =>
      obtain ⟨_, after, remaining⟩ := Lexing.scan_prefix_of_eq_some scanned
      have whole := Lexing.gap_append_afterGap text
      have stops : first.stop = place + (Lexing.gap text ++ first.text.toList).length := by
        rw [Token.stop, starts, List.length_append, String.length_toList, Nat.add_assoc]
      rw [← remaining, List.drop_left] at rest inductionHypothesis
      rcases List.mem_cons.1 member with rfl | later
      · have parted := isLayout.parted_append after nonempty
        have reads : Reads states (tokens.map Token.lexeme) ([] ++ (layout ++ after)) :=
          rest.reads.congr (isLayout.afterGap_append after).symm
        have split : Lexing.afterGap text = token.text.toList ++ [] ++ after := by
          rw [List.append_nil, remaining]
        refine ⟨Lexing.gap text ++ token.text.toList, after, ?_, stops, ?_⟩
        · rw [List.append_assoc, remaining, whole]
        · rw [List.append_assoc, ← List.nil_append (layout ++ after)]
          exact .next_of_parted scanned split parted reads
      · obtain ⟨before, behind, splitAfter, stopsLater, reads⟩ := inductionHypothesis later
        have parted := isLayout.parted_append behind nonempty
        have split : Lexing.afterGap text = first.text.toList ++ before ++ behind := by
          rw [List.append_assoc, ← splitAfter, remaining]
        refine ⟨Lexing.gap text ++ first.text.toList ++ before, behind, ?_, ?_, ?_⟩
        · rw [List.append_assoc, List.append_assoc, ← List.append_assoc first.text.toList, ← split,
            whole]
        · rw [stopsLater, stops, Nat.add_assoc, ← List.length_append]
        · rw [List.append_assoc, List.append_assoc]
          exact .next_of_parted scanned split parted reads

/-! ## Programs with layout put in -/

/-- A text with another one put in at a place. -/
def inserted (source : String) (place : Nat) (added : String) : String :=
  String.ofList (source.toList.take place ++ (added.toList ++ source.toList.drop place))

theorem toList_inserted
    {source : String} {before after : List Char} (added : String)
    (split : source.toList = before ++ after) :
    (inserted source before.length added).toList = before ++ (added.toList ++ after) := by
  rw [inserted, String.toList_ofList, split, List.take_left, List.drop_left]

/-- A text with layout put in is read along the same states. -/
theorem Parsed.reads_inserted
    {source layout : String} {parsed : Parsed} {place : Nat}
    (succeeded : Parsed.ofText source = .ok parsed)
    (boundary : place = 0 ∨ ∃ token ∈ parsed.tokens, place = token.stop)
    (isLayout : Layout layout.toList) :
    Reads (Automaton.start :: parsed.derivation.trail Automaton.start) parsed.derivation.lexemes
      (inserted source place layout).toList := by
  have cut := Parsed.cut_of_ofText_eq_ok succeeded
  rw [(Parsed.laid_of_ofText_eq_ok succeeded).2]
  by_cases nothing : layout.toList = []
  · have same : (inserted source place layout).toList = source.toList := by
      rw [inserted, nothing, String.toList_ofList, List.nil_append, List.take_append_drop]
    rw [same]
    exact cut.reads
  · rcases boundary with rfl | ⟨token, member, rfl⟩
    · have atStart :
          (inserted source [].length layout).toList = [] ++ (layout.toList ++ source.toList) :=
        toList_inserted layout (List.nil_append source.toList).symm
      rw [List.length_nil, List.nil_append] at atStart
      rw [atStart]
      exact cut.reads.congr (isLayout.afterGap_append source.toList).symm
    · obtain ⟨before, after, split, stops, reads⟩ :=
        cut.exists_reads_insert isLayout nothing member
      rw [stops, Nat.zero_add, toList_inserted layout split]
      exact reads

namespace Program

/-- Layout before a program or behind one of its tokens does not change its tree. -/
theorem tree_inserted
    {source layout : String} {parsed : Parsed} {place : Nat}
    (succeeded : Parsed.ofText source = .ok parsed)
    (boundary : place = 0 ∨ ∃ token ∈ parsed.tokens, place = token.stop)
    (isLayout : Layout layout.toList) :
    Program.tree source = .ok (parsed.tree .compact) ∧
      Program.tree (inserted source place layout) = .ok (parsed.tree .compact) := by
  have reads := Parsed.reads_inserted succeeded boundary isLayout
  obtain ⟨tokens, parsedInserted⟩ := Parsed.exists_ofText_eq_ok_iff_reads.2 reads
  constructor
  · rw [Program.tree, succeeded]
  · rw [Program.tree, parsedInserted]
    rfl

/-- A comment behind an `in` that touches its neighbours. -/
theorem tree_inserted_of_membership :
    ∃ parsed,
      Parsed.ofText "1inx;" = .ok parsed ∧
        (∃ token ∈ parsed.tokens, 3 = token.stop) ∧
        Layout " // /\n".toList ∧
        Program.tree "1inx;" = .ok (parsed.tree .compact) ∧
        Program.tree "1in // /\nx;" = .ok (parsed.tree .compact) := by
  have stops :
      (Parsed.ofText "1inx;").toOption.map (·.tokens.map Token.stop) = some [1, 3, 4, 5] := by
    decide +kernel
  have oneLine : '\n' ∉ [' ', '/'] := by decide
  have isLayout : Layout " // /\n".toList := .remark oneLine
  have joined : inserted "1inx;" 3 " // /\n" = "1in // /\nx;" := by decide +kernel
  cases succeeded : Parsed.ofText "1inx;" with
  | error error =>
      rw [succeeded] at stops
      cases stops
  | ok parsed =>
      rw [succeeded] at stops
      have listed : parsed.tokens.map Token.stop = [1, 3, 4, 5] := Option.some.inj stops
      have third : 3 ∈ parsed.tokens.map Token.stop := by
        rw [listed]
        decide
      obtain ⟨token, member, isThird⟩ := List.mem_map.1 third
      have boundary : ∃ token ∈ parsed.tokens, 3 = token.stop := ⟨token, member, isThird.symm⟩
      rw [← joined]
      exact ⟨parsed, rfl, boundary, isLayout, tree_inserted succeeded (.inr boundary) isLayout⟩

end Program

end Scriptlet
