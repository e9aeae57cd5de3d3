import Mathlib.Algebra.BigOperators.Group.List.Basic
import Scriptlet.Proofs.Console.Braces
import Scriptlet.Proofs.Lexing.Spacing

/-!
# Open blocks

Every block of a program has an opening and a closing brace among its tokens, and each brace among
the tokens is one of these. Where a token ends, the depth of the text before is therefore the number
of blocks that are open there: their opening brace has been read, and their closing brace has not.
This needs that no comment stands between the tokens.
-/

namespace Scriptlet

/-! ## Blocks of derivations -/

/-- A block of a program, by the ranks of its braces among the lexemes. -/
structure Block where
  opening : Nat
  closing : Nat
  ordered : opening ≤ closing
  deriving DecidableEq, Repr

namespace Block

/-- A block of the given number of lexemes, the first of which has the given rank. -/
def spanning (rank count : Nat) : Block :=
  ⟨rank, rank + (count - 1), Nat.le_add_right _ _⟩

/-- Whether a block is open once the given number of lexemes has been read. -/
def isOpenAfter (count : Nat) (block : Block) : Bool :=
  block.opening < count && !(block.closing < count)

end Block

mutual

/-- The blocks of a derivation whose first lexeme has the given rank, an outer one before those
inside it. -/
def Derivation.blocksFrom {symbol : Symbol} : Nat → Derivation symbol → List Block
  | _, .leaf _ _ => []
  | rank, .node production parts =>
      if production.lhs = .block then
        .spanning rank parts.lexemes.length :: parts.blocksFrom rank
      else
        parts.blocksFrom rank

def Derivations.blocksFrom {symbols : List Symbol} : Nat → Derivations symbols → List Block
  | _, .nil => []
  | rank, .cons first rest =>
      first.blocksFrom rank ++ rest.blocksFrom (rank + first.lexemes.length)

end

/-! ## Blocks pair up the braces -/

/-- The ranks of the lexemes of a terminal, from a rank on. -/
def ranksFrom (terminal : Terminal) (rank : Nat) (lexemes : List Lexeme) : List Nat :=
  lexemes.findIdxs (fun lexeme => lexeme.1 == terminal) rank

/-- The ranks of the parts that are lexemes of a terminal themselves. -/
def Derivations.ownRanks (terminal : Terminal) {symbols : List Symbol} :
    Nat → Derivations symbols → List Nat
  | _, .nil => []
  | rank, @Derivations.cons symbol _ first rest =>
      (if symbol = .terminal terminal then [rank] else []) ++
        rest.ownRanks terminal (rank + first.lexemes.length)

theorem ranksFrom_append (terminal : Terminal) (rank : Nat) (first rest : List Lexeme) :
    ranksFrom terminal rank (first ++ rest) =
      ranksFrom terminal rank first ++ ranksFrom terminal (rank + first.length) rest :=
  List.findIdxs_append

theorem ranksFrom_cons
    (terminal : Terminal) (rank : Nat) (lexeme : Lexeme) (lexemes : List Lexeme) :
    ranksFrom terminal rank (lexeme :: lexemes) =
      if lexeme.1 = terminal then rank :: ranksFrom terminal (rank + 1) lexemes
      else ranksFrom terminal (rank + 1) lexemes := by
  rw [ranksFrom, List.findIdxs_cons]
  simp only [beq_iff_eq]
  rfl

theorem Derivation.length_lexemes_terminal
    {terminal : Terminal} (derivation : Derivation (.terminal terminal)) :
    derivation.lexemes.length = 1 := by
  cases derivation
  rfl

theorem Derivations.ownRanks_eq_nil
    {terminal : Terminal} {symbols : List Symbol} (derivations : Derivations symbols) (rank : Nat)
    (absent : .terminal terminal ∉ symbols) :
    derivations.ownRanks terminal rank = [] := by
  match derivations with
  | .nil => rfl
  | .cons first rest =>
      rw [List.mem_cons, not_or] at absent
      rw [ownRanks, if_neg (Ne.symm absent.1), rest.ownRanks_eq_nil _ absent.2]
      rfl

/-- Braces stand in blocks only. -/
theorem Production.brace_notMem_rhs
    (production : Production)
    (notBlock : production.lhs ≠ .block) :
    .terminal (.mark .leftBrace) ∉ production.rhs ∧
      .terminal (.mark .rightBrace) ∉ production.rhs := by
  cases production <;> first | exact absurd rfl notBlock | decide

/-- The brace that opens a block is its first lexeme, and the one that closes it the last. -/
theorem Production.ownRanks_rhs
    (production : Production) (parts : Derivations production.rhs) (rank : Nat) :
    parts.ownRanks (.mark .leftBrace) rank =
        (if production.lhs = .block then
          [(Block.spanning rank parts.lexemes.length).opening] else []) ∧
      parts.ownRanks (.mark .rightBrace) rank =
        (if production.lhs = .block then
          [(Block.spanning rank parts.lexemes.length).closing] else []) := by
  by_cases isBlock : production.lhs = .block
  · rw [if_pos isBlock, if_pos isBlock]
    cases production with
    | blockStatements =>
        match parts with
        | .cons opening (.cons inside (.cons closing .nil)) =>
            simp [Derivations.ownRanks, Derivations.lexemes, Block.spanning,
              Derivation.length_lexemes_terminal]
            omega
    | blockEmpty =>
        match parts with
        | .cons opening (.cons closing .nil) =>
            simp [Derivations.ownRanks, Derivations.lexemes, Block.spanning,
              Derivation.length_lexemes_terminal]
    | _ => cases isBlock
  · obtain ⟨noOpening, noClosing⟩ := production.brace_notMem_rhs isBlock
    rw [if_neg isBlock, if_neg isBlock]
    exact ⟨parts.ownRanks_eq_nil rank noOpening, parts.ownRanks_eq_nil rank noClosing⟩

/-- A brace of blocks: the terminal, and which rank of a block is that of its lexeme. -/
def IsBrace (terminal : Terminal) (side : Block → Nat) : Prop :=
  ∀ (production : Production) (parts : Derivations production.rhs) (rank : Nat),
    parts.ownRanks terminal rank =
      if production.lhs = .block then [side (.spanning rank parts.lexemes.length)] else []

mutual

/-- The lexemes of a brace are those of the blocks of a derivation, each once, unless the derivation
is such a lexeme itself. -/
theorem Derivation.perm_ranksFrom
    {terminal : Terminal} {side : Block → Nat} {symbol : Symbol}
    (isBrace : IsBrace terminal side) (derivation : Derivation symbol) (rank : Nat) :
    (ranksFrom terminal rank derivation.lexemes).Perm
      ((derivation.blocksFrom rank).map side ++
        if symbol = .terminal terminal then [rank] else []) := by
  match derivation with
  | .leaf read text => simp [ranksFrom, Derivation.lexemes, Derivation.blocksFrom]
  | .node production parts =>
      have notLexeme : Symbol.nonterminal production.lhs ≠ .terminal terminal := Symbol.noConfusion
      have below := Derivations.perm_ranksFrom isBrace parts rank
      rw [isBrace production parts rank] at below
      rw [Derivation.lexemes, Derivation.blocksFrom, if_neg notLexeme, List.append_nil]
      split at below
      · next isBlock =>
          rw [if_pos isBlock, List.map_cons]
          exact below.trans List.perm_append_comm
      · next notBlock =>
          rw [List.append_nil] at below
          rw [if_neg notBlock]
          exact below

theorem Derivations.perm_ranksFrom
    {terminal : Terminal} {side : Block → Nat} {symbols : List Symbol}
    (isBrace : IsBrace terminal side) (derivations : Derivations symbols) (rank : Nat) :
    (ranksFrom terminal rank derivations.lexemes).Perm
      ((derivations.blocksFrom rank).map side ++ derivations.ownRanks terminal rank) := by
  match derivations with
  | .nil => exact .nil
  | .cons first rest =>
      have ofFirst := Derivation.perm_ranksFrom isBrace first rank
      have ofRest := Derivations.perm_ranksFrom isBrace rest (rank + first.lexemes.length)
      rw [Derivations.lexemes, ranksFrom_append, Derivations.blocksFrom, List.map_append,
        Derivations.ownRanks]
      refine (ofFirst.append ofRest).trans ?_
      rw [List.append_assoc, List.append_assoc]
      exact .append_left _ (List.perm_append_comm_assoc _ _ _)

end

theorem countP_ranksFrom_of_le
    (terminal : Terminal) (lexemes : List Lexeme) {rank count : Nat}
    (reached : count ≤ rank) :
    (ranksFrom terminal rank lexemes).countP (· < count) = 0 := by
  refine List.countP_eq_zero.2 fun later member => ?_
  have behind : rank ≤ later := List.ge_of_mem_findIdxs later member
  simpa using reached.trans behind

theorem braceChanges_cons (lexeme : Lexeme) (lexemes : List Lexeme) :
    braceChanges (lexeme :: lexemes) = lexeme.1.braceChange + braceChanges lexemes := by
  rw [braceChanges, List.map_cons, List.sum_cons, braceChanges]

/-- What the first lexemes add to the depth: one for each opening brace, less the closing ones. -/
theorem braceChanges_take (lexemes : List Lexeme) (rank count : Nat) :
    braceChanges (lexemes.take (count - rank)) =
      ((ranksFrom (.mark .leftBrace) rank lexemes).countP (· < count) : Int) -
        (ranksFrom (.mark .rightBrace) rank lexemes).countP (· < count) := by
  induction lexemes generalizing rank with
  | nil => simp [braceChanges, ranksFrom]
  | cons lexeme lexemes inductionHypothesis =>
      by_cases within : rank < count
      · have oneMore : count - rank = count - (rank + 1) + 1 := by omega
        rw [oneMore, List.take_succ_cons, braceChanges_cons, inductionHypothesis, ranksFrom_cons,
          ranksFrom_cons]
        by_cases opens : lexeme.1 = .mark .leftBrace
        · simp [opens, Terminal.braceChange, within]
          omega
        · by_cases closes : lexeme.1 = .mark .rightBrace
          · simp [closes, Terminal.braceChange, within]
            omega
          · simp [opens, closes, Terminal.braceChange]
      · have nothing : count - rank = 0 := by omega
        rw [nothing, countP_ranksFrom_of_le _ _ (Nat.le_of_not_lt within),
          countP_ranksFrom_of_le _ _ (Nat.le_of_not_lt within)]
        rfl

/-- The blocks that are open after some lexemes are those whose opening brace is among them, less
those whose closing brace is. -/
theorem countP_isOpenAfter (blocks : List Block) (count : Nat) :
    (blocks.countP (Block.isOpenAfter count) : Int) =
      blocks.countP (fun block => decide (block.opening < count)) -
        blocks.countP fun block => decide (block.closing < count) := by
  induction blocks with
  | nil => rfl
  | cons block blocks inductionHypothesis =>
      have ordered := block.ordered
      simp only [List.countP_cons, Block.isOpenAfter]
      by_cases opened : block.opening < count
      · by_cases closed : block.closing < count
        · simp [opened, closed, inductionHypothesis]
        · simp [opened, closed, inductionHypothesis]
          omega
      · have notClosed : ¬ block.closing < count := by omega
        simp [opened, notClosed, inductionHypothesis]

/-- The braces among the lexemes of a program are those of its blocks, each once. -/
theorem ProgramDerivation.perm_ranksFrom_braces (derivation : ProgramDerivation) :
    (ranksFrom (.mark .leftBrace) 0 derivation.lexemes).Perm
        ((derivation.blocksFrom 0).map Block.opening) ∧
      (ranksFrom (.mark .rightBrace) 0 derivation.lexemes).Perm
        ((derivation.blocksFrom 0).map Block.closing) := by
  have opening : IsBrace (.mark .leftBrace) Block.opening :=
    fun production parts rank => (production.ownRanks_rhs parts rank).1
  have closing : IsBrace (.mark .rightBrace) Block.closing :=
    fun production parts rank => (production.ownRanks_rhs parts rank).2
  have openings := derivation.perm_ranksFrom opening 0
  have closings := derivation.perm_ranksFrom closing 0
  rw [if_neg Symbol.noConfusion, List.append_nil] at openings closings
  exact ⟨openings, closings⟩

/-- The first lexemes of a program add one to the depth for every block that is open behind them. -/
theorem ProgramDerivation.braceChanges_take (derivation : ProgramDerivation) (count : Nat) :
    braceChanges (derivation.lexemes.take count) =
      (derivation.blocksFrom 0).countP (Block.isOpenAfter count) := by
  obtain ⟨openings, closings⟩ := derivation.perm_ranksFrom_braces
  have changes := Scriptlet.braceChanges_take derivation.lexemes 0 count
  rw [Nat.sub_zero, openings.countP_eq, closings.countP_eq, List.countP_map, List.countP_map]
    at changes
  rw [changes, countP_isOpenAfter]
  rfl

/-! ## Fronts of a text -/

theorem Lexing.depthFrom_spaces
    {text : List Char}
    (spaces : ∀ c ∈ text, isSpace c = true) :
    Line.depthFrom false text = 0 ∧ Line.PairedQuotes text := by
  have plain : ∀ c ∈ text, c ≠ '"' ∧ c ≠ '{' ∧ c ≠ '}' := by
    intro c member
    have space := spaces c member
    exact
      ⟨ne_of_accepts space (by decide), ne_of_accepts space (by decide),
        ne_of_accepts space (by decide)⟩
  have unquoted : '"' ∉ text := fun member => (plain '"' member).1 rfl
  rw [Line.PairedQuotes, List.count_eq_zero_of_not_mem unquoted]
  exact ⟨Line.depthFrom_false_of_plain plain, rfl⟩

/-- Where the last of some tokens ends, or else the place before them. -/
def endOf : Nat → List Token → Nat
  | place, [] => place
  | _, token :: tokens => endOf token.stop tokens

theorem endOf_append_singleton (place : Nat) (tokens : List Token) (token : Token) :
    endOf place (tokens ++ [token]) = token.stop := by
  induction tokens generalizing place with
  | nil => rfl
  | cons first tokens inductionHypothesis => exact inductionHypothesis first.stop

namespace Laid

theorem lt_stop
    {place : Nat} {tokens : List Token} {text : List Char}
    (laid : Laid place tokens text) :
    ∀ token ∈ tokens, place < token.stop := by
  induction laid with
  | last _ => nofun
  | @next place gap rest token tokens _ fits starts _ inductionHypothesis =>
      obtain ⟨c, more, spelled, _⟩ := Lexing.exists_first_of_fits fits
      have first : place < token.stop := by
        have nonempty : 0 < token.text.length := by
          rw [← String.length_toList]
          simp only [Token.lexeme] at spelled
          simp [spelled]
        rw [Token.stop, starts]
        omega
      refine List.forall_mem_cons.2 ⟨first, fun later member => ?_⟩
      exact first.trans (inductionHypothesis later member)

/-- The tokens of a front end up to its end, and those behind it end later. -/
theorem stops_around
    {place : Nat} {fronts backs : List Token} {text : List Char}
    (laid : Laid place (fronts ++ backs) text) :
    place ≤ endOf place fronts ∧
      (∀ token ∈ fronts, token.stop ≤ endOf place fronts) ∧
      ∀ token ∈ backs, endOf place fronts < token.stop := by
  induction fronts generalizing place text with
  | nil => exact ⟨Nat.le_refl place, nofun, laid.lt_stop⟩
  | cons first fronts inductionHypothesis =>
      have later : place < first.stop := laid.lt_stop first List.mem_cons_self
      cases laid with
      | next _ _ _ rest =>
          obtain ⟨reached, inFront, behind⟩ := inductionHypothesis rest
          exact ⟨later.le.trans reached, List.forall_mem_cons.2 ⟨reached, inFront⟩, behind⟩

/-- Without comments, the depth of the text up to the end of some tokens is that of the tokens. -/
theorem exists_front
    {place : Nat} {fronts backs : List Token} {text : List Char}
    (laid : Laid place (fronts ++ backs) text)
    (uncommented :
      ∀ gap ∈ gapsFrom place (fronts ++ backs) text, ∀ c ∈ gap, Lexing.isSpace c = true) :
    ∃ before after,
      text = before ++ after ∧ endOf place fronts = place + before.length ∧
        Line.depthFrom false before = braceChanges (fronts.map Token.lexeme) := by
  induction fronts generalizing place text with
  | nil => exact ⟨[], text, rfl, rfl, rfl⟩
  | cons first fronts inductionHypothesis =>
      cases laid with
      | @next _ gap rest _ _ _ fits starts laidRest =>
          rw [List.cons_append, gapsFrom_cons _ rest starts] at uncommented
          obtain ⟨spaces, uncommentedRest⟩ := List.forall_mem_cons.1 uncommented
          obtain ⟨before, after, rfl, ends, depth⟩ := inductionHypothesis laidRest uncommentedRest
          obtain ⟨ofGap, pairedGap⟩ := Lexing.depthFrom_spaces spaces
          obtain ⟨ofFirst, pairedFirst⟩ := Lexing.depthFrom_lexeme fits
          refine ⟨gap ++ (first.text.toList ++ before), after, ?_, ?_, ?_⟩
          · simp only [List.append_assoc]
          · rw [endOf, ends, Token.stop, starts, List.length_append, List.length_append,
              String.length_toList]
            omega
          · rw [Line.depthFrom_append_of_paired _ pairedGap, ofGap, List.map_cons,
              braceChanges_cons, ← depth, ← ofFirst, Int.zero_add]
            exact Line.depthFrom_append_of_paired before pairedFirst

end Laid

/-! ## Open blocks of programs -/

namespace Parsed

/-- No comment stands before, between or behind the tokens. -/
def Uncommented (source : String) (parsed : Parsed) : Prop :=
  ∀ gap ∈ parsed.gaps source, ∀ c ∈ gap, Lexing.isSpace c = true

instance (source : String) (parsed : Parsed) : Decidable (parsed.Uncommented source) :=
  decidable_of_iff ((parsed.gaps source).all fun gap => gap.all Lexing.isSpace)
    (by simp [Uncommented])

/-- Whether the token of the given rank stands before a place. -/
def isBefore (parsed : Parsed) (place rank : Nat) : Bool :=
  parsed.tokens[rank]?.any fun token => token.stop ≤ place

/-- The number of blocks whose opening brace stands before a place and whose closing brace does
not. -/
def openBlocks (parsed : Parsed) (place : Nat) : Nat :=
  (parsed.derivation.blocksFrom 0).countP fun block =>
    parsed.isBefore place block.opening && !parsed.isBefore place block.closing

theorem isBefore_endOf
    {parsed : Parsed} {fronts backs : List Token} {text : List Char}
    (split : parsed.tokens = fronts ++ backs)
    (laid : Laid 0 parsed.tokens text) (rank : Nat) :
    parsed.isBefore (endOf 0 fronts) rank = decide (rank < fronts.length) := by
  rw [split] at laid
  obtain ⟨_, inFront, behind⟩ := laid.stops_around
  rw [isBefore, split]
  by_cases early : rank < fronts.length
  · have stops := inFront _ (List.getElem_mem early)
    simp [List.getElem?_append_left early, early, stops]
  · rw [List.getElem?_append_right (Nat.le_of_not_lt early), decide_eq_false early]
    cases found : backs[rank - fronts.length]? with
    | none => rfl
    | some token =>
        have stops := behind token (List.mem_of_getElem? found)
        simpa using stops

theorem exists_front_of_boundary
    {parsed : Parsed} {place : Nat}
    (boundary : place = 0 ∨ ∃ token ∈ parsed.tokens, place = token.stop) :
    ∃ fronts backs, parsed.tokens = fronts ++ backs ∧ place = endOf 0 fronts := by
  rcases boundary with rfl | ⟨token, member, rfl⟩
  · exact ⟨[], parsed.tokens, rfl, rfl⟩
  · obtain ⟨earlier, backs, split⟩ := List.append_of_mem member
    refine ⟨earlier ++ [token], backs, ?_, (endOf_append_singleton 0 earlier token).symm⟩
    rw [split, List.append_assoc, List.singleton_append]

/-- Behind the tokens of a program without comments the depth is the number of open blocks; so it
is not negative there, and nothing is open at the end. -/
theorem depth_eq_openBlocks
    {source : String} {parsed : Parsed} {place : Nat}
    (succeeded : Parsed.ofText source = .ok parsed)
    (uncommented : parsed.Uncommented source)
    (boundary : place = 0 ∨ ∃ token ∈ parsed.tokens, place = token.stop) :
    Line.depth (String.ofList (source.toList.take place)) = parsed.openBlocks place ∧
      0 ≤ Line.depth (String.ofList (source.toList.take place)) ∧
      Line.depth source = 0 := by
  obtain ⟨laid, sameLexemes⟩ := Parsed.laid_of_ofText_eq_ok succeeded
  have counted :
      Line.depth (String.ofList (source.toList.take place)) = parsed.openBlocks place := by
    obtain ⟨fronts, backs, split, rfl⟩ := exists_front_of_boundary boundary
    have before := isBefore_endOf split laid
    rw [split] at laid
    have spaces := uncommented
    rw [Uncommented, gaps, split] at spaces
    obtain ⟨front, back, whole, ends, depth⟩ := laid.exists_front spaces
    have lexemes : fronts.map Token.lexeme = parsed.derivation.lexemes.take fronts.length := by
      rw [sameLexemes, split, List.map_append, ← List.length_map Token.lexeme, List.take_left]
    have counts := parsed.derivation.braceChanges_take fronts.length
    rw [Nat.zero_add] at ends
    rw [Line.depth, String.toList_ofList, ends, whole, List.take_left, depth, lexemes, counts,
      openBlocks, ← ends]
    simp only [before]
    rfl
  refine ⟨counted, by omega, ?_⟩
  have paired : ∀ gap ∈ parsed.gaps source, Line.PairedQuotes gap :=
    fun gap member => (Lexing.depthFrom_spaces (uncommented gap member)).2
  rw [depth_eq_sum_gaps succeeded paired]
  refine List.sum_eq_zero fun depth member => ?_
  obtain ⟨gap, gapMember, rfl⟩ := List.mem_map.1 member
  exact (Lexing.depthFrom_spaces (uncommented gap gapMember)).1

/-- Behind a literal with braces inside two blocks. -/
theorem depth_eq_openBlocks_nested :
    ∃ (source : String) (parsed : Parsed),
      source = "if (x) \x7b while (y) \x7b print(\"\x7d\x7b\"); \x7d \x7d" ∧
        Parsed.ofText source = .ok parsed ∧
        parsed.Uncommented source ∧
        (∃ token ∈ parsed.tokens, 31 = token.stop) ∧
        parsed.openBlocks 31 = 2 ∧
        Line.depth (String.ofList (source.toList.take 31)) = 2 ∧
        Line.depth source = 0 := by
  have checked :
      let source := "if (x) \x7b while (y) \x7b print(\"\x7d\x7b\"); \x7d \x7d"
      ((Parsed.ofText source).toOption.any fun parsed =>
        decide (parsed.Uncommented source) && decide (∃ token ∈ parsed.tokens, 31 = token.stop) &&
          parsed.openBlocks 31 == 2) = true := by
    decide +kernel
  dsimp only at checked
  generalize "if (x) \x7b while (y) \x7b print(\"\x7d\x7b\"); \x7d \x7d" = source at checked ⊢
  cases succeeded : Parsed.ofText source with
  | error error =>
      rw [succeeded] at checked
      cases checked
  | ok parsed =>
      rw [succeeded] at checked
      obtain ⟨spaced, two⟩ := Bool.and_eq_true_iff.1 checked
      obtain ⟨uncommented, stops⟩ := Bool.and_eq_true_iff.1 spaced
      have uncommented := of_decide_eq_true uncommented
      have boundary := of_decide_eq_true stops
      have opened : parsed.openBlocks 31 = 2 := eq_of_beq two
      obtain ⟨depth, _, whole⟩ := depth_eq_openBlocks succeeded uncommented (.inr boundary)
      rw [opened] at depth
      exact ⟨source, parsed, rfl, succeeded, uncommented, boundary, opened, depth, whole⟩

end Parsed

end Scriptlet
