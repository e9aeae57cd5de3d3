import Scriptlet.Console.Buffer
import Scriptlet.Proofs.Lexing.Invisible
import Scriptlet.Proofs.Lexing.Lines
import Scriptlet.Proofs.Parsing.Layout

/-!
# Indentation

Blanks right behind a line break do not matter to parsing, neither to the tree of a program nor to
whether a text is one. No lexeme reaches over a line break and no comment lasts beyond it, so in
any text that is read along states the blanks stand in a gap. Enter puts such blanks into what is
being entered, wherever the cursor stands and whatever is open there; as long as they stand at the
start of a line, the same program would be submitted without them.
-/

namespace Scriptlet

/-! ## Reading behind a line break -/

/-- What stands behind a line break can be exchanged for a text that goes on in the same way after
its gap. The induction follows the lexemes: each one lies before the line break, or the gap before
it reaches beyond. -/
theorem Reads.exchange
    {states : List Automaton.State} {lexemes : List Lexeme} {front back other : List Char}
    (reads : Reads states lexemes (front ++ '\n' :: back))
    (same : Lexing.afterGap back = Lexing.afterGap other) :
    Reads states lexemes (front ++ '\n' :: other) := by
  -- Where the gap reaches beyond the line break, both texts are the same from the next lexeme on.
  have beyond
      {states : List Automaton.State} {lexemes : List Lexeme} {front : List Char}
      (onlyGap : Lexing.afterGap front = [])
      (reads : Reads states lexemes (front ++ '\n' :: back)) :
      Reads states lexemes (front ++ '\n' :: other) := by
    refine reads.congr ?_
    rw [Lexing.afterGap_append_newline_of_eq_nil _ onlyGap, same,
      Lexing.afterGap_append_newline_of_eq_nil _ onlyGap]
  induction lexemes generalizing states front with
  | nil =>
      by_cases onlyGap : Lexing.afterGap front = []
      · exact beyond onlyGap reads
      · cases reads with
        | last atEnd =>
            rw [Lexing.afterGap_append_newline_of_ne_nil _ onlyGap] at atEnd
            simp at atEnd
  | cons lexeme lexemes inductionHypothesis =>
      by_cases onlyGap : Lexing.afterGap front = []
      · exact beyond onlyGap reads
      · have remaining (more : List Char) :=
          Lexing.afterGap_append_newline_of_ne_nil more onlyGap
        cases reads with
        | next scanned rest =>
            rw [remaining, Lexing.scan_append_newline] at scanned
            have inside := (Lexing.scan_prefix_of_eq_some scanned).2.length_le
            rw [remaining, List.drop_append_of_le_length inside] at rest
            refine .next ?_ ?_
            · rw [remaining, Lexing.scan_append_newline]
              exact scanned
            · rw [remaining, List.drop_append_of_le_length inside]
              exact inductionHypothesis rest

/-- The tree of a text is that of a derivation whose lexemes are read off the text. -/
theorem Program.tree_eq_ok_iff_reads {source : String} {node : Node} :
    Program.tree source = .ok node ↔
      ∃ derivation : ProgramDerivation,
        Reads (Automaton.start :: derivation.trail Automaton.start) derivation.lexemes
            source.toList ∧
          derivation.lower .compact = node := by
  simp only [← Parsed.exists_ofText_eq_ok_iff_reads]
  constructor
  · intro accepted
    unfold Program.tree at accepted
    split at accepted
    · next parsed succeeded =>
        cases accepted
        exact ⟨parsed.derivation, ⟨parsed.tokens, succeeded⟩, rfl⟩
    · cases accepted
  · rintro ⟨derivation, ⟨tokens, succeeded⟩, rfl⟩
    rw [Program.tree, succeeded]
    rfl

def blanks (count : Nat) : List Char :=
  List.replicate count ' '

theorem afterGap_blanks_append (count : Nat) (text : List Char) :
    Lexing.afterGap (blanks count ++ text) = Lexing.afterGap text := by
  refine Layout.afterGap_append text (.spaces fun c member => ?_)
  rw [List.eq_of_mem_replicate member]
  rfl

theorem Program.tree_blanks_iff
    (front back : List Char) (count : Nat) (node : Node) :
    Program.tree (String.ofList (front ++ '\n' :: (blanks count ++ back))) = .ok node ↔
      Program.tree (String.ofList (front ++ '\n' :: back)) = .ok node := by
  have same := afterGap_blanks_append count back
  simp only [Program.tree_eq_ok_iff_reads, String.toList_ofList]
  constructor
  · rintro ⟨derivation, reads, lowered⟩
    exact ⟨derivation, reads.exchange same, lowered⟩
  · rintro ⟨derivation, reads, lowered⟩
    exact ⟨derivation, reads.exchange same.symm, lowered⟩

theorem Program.tree_inserted_blanks_iff
    {source : String} {place : Nat} (count : Nat) (node : Node)
    (behind : (source.toList.take place).getLast? = some '\n') :
    Program.tree (inserted source place (String.ofList (blanks count))) = .ok node ↔
      Program.tree source = .ok node := by
  obtain ⟨front, ends⟩ := List.getLast?_eq_some_iff.1 behind
  have whole : source = String.ofList (front ++ '\n' :: source.toList.drop place) := by
    rw [← List.singleton_append, ← List.append_assoc, ← ends, List.take_append_drop,
      String.ofList_toList]
  have longer :
      inserted source place (String.ofList (blanks count)) =
        String.ofList (front ++ '\n' :: (blanks count ++ source.toList.drop place)) := by
    rw [inserted, ends, String.toList_ofList, List.append_assoc, List.singleton_append]
  rw [longer, Program.tree_blanks_iff, ← whole]

/-! ## Indented texts -/

/-- A text with blanks put in behind some of its line breaks. -/
inductive Indents (bare : List Char) : List Char → Prop
  | none : Indents bare bare
  | more {front back : List Char} (count : Nat) :
      Indents bare (front ++ '\n' :: back) →
      Indents bare (front ++ '\n' :: (blanks count ++ back))

namespace Indents

variable {bare text : List Char}

theorem tree_iff
    (indents : Indents bare text) (node : Node) :
    Program.tree (String.ofList text) = .ok node ↔
      Program.tree (String.ofList bare) = .ok node := by
  induction indents with
  | none => exact Iff.rfl
  | more count _ inductionHypothesis =>
      exact (Program.tree_blanks_iff _ _ count node).trans inductionHypothesis

/-- Blanks and line breaks are visible. -/
theorem erased
    (indents : Indents bare text) :
    Indents (Line.erased bare) (Line.erased text) := by
  have newline : Line.isInvisible '\n' = false := by decide
  induction indents with
  | none => exact .none
  | more count _ inductionHypothesis =>
      have visibleBlanks : Line.erased (blanks count) = blanks count := by
        refine Line.erased_eq_self fun c member => ?_
        rw [List.eq_of_mem_replicate member]
        rfl
      rw [Line.erased_append, Line.erased_cons_of_visible _ newline] at inductionHypothesis ⊢
      rw [Line.erased_append, visibleBlanks]
      exact .more count inductionHypothesis

/-- A text that is indented is a program exactly if the bare one is, with the same tree, and so are
their visible characters. -/
theorem tree_iff_and_visible
    {bare text : String}
    (indents : Indents bare.toList text.toList) (node : Node) :
    (Program.tree text = .ok node ↔ Program.tree bare = .ok node) ∧
      (Program.tree (Line.visible text) = .ok node ↔
        Program.tree (Line.visible bare) = .ok node) := by
  have same := indents.tree_iff node
  rw [String.ofList_toList, String.ofList_toList] at same
  exact ⟨same, indents.erased.tree_iff node⟩

end Indents

/-- Nothing but blanks stands between the end of a text and its last line break. -/
def AtLineStart (text : List Char) : Prop :=
  ∃ front count, text = front ++ '\n' :: blanks count

theorem AtLineStart.snoc
    {text : List Char}
    (atStart : AtLineStart text) :
    AtLineStart (text ++ [' ']) := by
  obtain ⟨front, count, rfl⟩ := atStart
  refine ⟨front, count + 1, ?_⟩
  rw [List.append_assoc, List.cons_append, blanks, blanks, List.replicate_succ']

/-- Another blank may be put in at the start of a line: it might as well stand right behind the line
break. -/
theorem Indents.blank
    {bare passed text : List Char}
    (indents : Indents bare (passed ++ text))
    (atStart : AtLineStart passed) :
    Indents bare (passed ++ ' ' :: text) := by
  obtain ⟨front, count, rfl⟩ := atStart
  have around : blanks count ++ [' '] = ' ' :: blanks count :=
    List.replicate_succ'.symm.trans List.replicate_succ
  have moved : blanks count ++ ' ' :: text = blanks 1 ++ (blanks count ++ text) := by
    rw [List.append_cons, around]
    rfl
  rw [List.append_assoc, List.cons_append] at indents ⊢
  rw [moved]
  exact .more 1 indents

/-! ## What is being entered -/

namespace Console

/-- A character of a text that is being entered: a blank that Enter has put in, or any character
that came there in another way. -/
inductive Letter where
  | other (c : Char)
  | indent
  deriving DecidableEq, Repr

namespace Letter

def char : Letter → Char
  | other c => c
  | indent => ' '

/-- The characters of letters without the blanks of Enter that stand at the start of a line, behind
a line break and nothing but blanks; `leading` says whether the letters begin there. -/
def bare : (leading : Bool) → List Letter → List Char
  | _, [] => []
  | leading, other c :: rest => c :: bare (c == '\n' || leading && c == ' ') rest
  | true, indent :: rest => bare true rest
  | false, indent :: rest => ' ' :: bare false rest

theorem bare_append_newline (leading : Bool) (front back : List Letter) :
    bare leading (front ++ other '\n' :: back) = bare leading front ++ '\n' :: bare true back := by
  induction front generalizing leading with
  | nil => rfl
  | cons letter front inductionHypothesis =>
      cases letter with
      | other c => simp [bare, inductionHypothesis]
      | indent => cases leading <;> simp [bare, inductionHypothesis]

theorem bare_replicate_indent_append (count : Nat) (back : List Letter) :
    bare true (List.replicate count indent ++ back) = bare true back := by
  induction count with
  | zero => rfl
  | succ count inductionHypothesis =>
      rw [List.replicate_succ, List.cons_append, bare, inductionHypothesis]

/-- A text is its bare text with blanks put in behind line breaks. The induction is on the letters,
with what was passed before them in front. -/
theorem indents_bare
    (letters : List Letter) {leading : Bool} {passed : List Char}
    (atStart : leading = true → AtLineStart passed) :
    Indents (passed ++ bare leading letters) (passed ++ letters.map char) := by
  induction letters generalizing leading passed with
  | nil => exact .none
  | cons letter letters inductionHypothesis =>
      cases letter with
      | other c =>
          have further :
              (c == '\n' || leading && c == ' ') = true → AtLineStart (passed ++ [c]) := by
            intro leads
            rcases Bool.or_eq_true_iff.1 leads with isBreak | isBlank
            · rw [beq_iff_eq.1 isBreak]
              exact ⟨passed, 0, rfl⟩
            · obtain ⟨wasLeading, isSpace⟩ := Bool.and_eq_true_iff.1 isBlank
              rw [beq_iff_eq.1 isSpace]
              exact (atStart wasLeading).snoc
          simpa [bare, char] using inductionHypothesis further
      | indent =>
          cases leading with
          | false =>
              have further : false = true → AtLineStart (passed ++ [' ']) := nofun
              simpa [bare, char] using inductionHypothesis further
          | true => exact (inductionHypothesis atStart).blank (atStart rfl)

end Letter

/-- A text that is being entered, parted at the cursor. Some of its blanks were put in by Enter; how
the other characters came there does not matter. -/
structure Draft where
  before : List Letter
  after : List Letter
  deriving DecidableEq, Repr

namespace Draft

/-- What the prompt holds. -/
def buffer (draft : Draft) : Buffer :=
  ⟨String.ofList (draft.before.map Letter.char), String.ofList (draft.after.map Letter.char)⟩

/-- The text without the blanks of Enter at the start of its lines. -/
def bare (draft : Draft) : String :=
  String.ofList (Letter.bare false (draft.before ++ draft.after))

/-- Puts a line break in at the cursor, with as many of Enter's blanks behind it. -/
def broken (draft : Draft) (count : Nat) : Draft :=
  ⟨draft.before ++ .other '\n' :: List.replicate count .indent, draft.after⟩

/-- The draft after Enter, or none if Enter submits it. -/
def enter? (draft : Draft) : Option Draft :=
  if submits draft.buffer.text then none
  else some (draft.broken (4 * (Line.depth draft.buffer.text).toNat))

theorem text_buffer (draft : Draft) :
    draft.buffer.text = String.ofList ((draft.before ++ draft.after).map Letter.char) := by
  rw [Buffer.text, buffer, ← String.ofList_append, List.map_append]

/-- Enter does to what the prompt holds what it does to the draft. -/
theorem map_buffer_enter? (draft : Draft) :
    draft.enter?.map buffer = draft.buffer.enter? := by
  unfold enter? Buffer.enter?
  split
  · rfl
  · simp [broken, buffer, Buffer.insert, newLine, Letter.char]

/-- All the blanks that Enter puts in are left out. -/
theorem bare_broken (draft : Draft) (count : Nat) :
    (draft.broken count).bare = (draft.broken 0).bare := by
  have parted (count : Nat) :
      (draft.broken count).before ++ (draft.broken count).after =
        draft.before ++ .other '\n' :: (List.replicate count .indent ++ draft.after) := by
    rw [broken, List.append_assoc, List.cons_append]
  rw [bare, bare, parted, parted, Letter.bare_append_newline, Letter.bare_append_newline,
    Letter.bare_replicate_indent_append]
  rfl

theorem indents_bare (draft : Draft) :
    Indents draft.bare.toList draft.buffer.text.toList := by
  rw [bare, text_buffer, String.toList_ofList, String.toList_ofList]
  exact @Letter.indents_bare (draft.before ++ draft.after) false [] nofun

end Draft

end Console

/-- Blanks behind a line break change neither whether a text is a program nor its tree, wherever the
line break stands, and any number of such blanks may be left out at once. So those that Enter puts
in change nothing either: whatever is being entered, the blanks of Enter at the start of its lines
can be left out, from the text as it is and from its visible characters. Enter puts them in at the
cursor, and the line that it begins there has none of them left. -/
theorem Program.tree_indented :
    (∀ (source : String) (place count : Nat) (node : Node),
        (source.toList.take place).getLast? = some '\n' →
          (Program.tree (inserted source place (String.ofList (blanks count))) = .ok node ↔
            Program.tree source = .ok node)) ∧
      (∀ (bare text : String) (node : Node),
        Indents bare.toList text.toList →
          (Program.tree text = .ok node ↔ Program.tree bare = .ok node) ∧
            (Program.tree (Line.visible text) = .ok node ↔
              Program.tree (Line.visible bare) = .ok node)) ∧
      ∀ draft : Console.Draft,
        (∀ node : Node,
          (Program.tree draft.buffer.text = .ok node ↔ Program.tree draft.bare = .ok node) ∧
            (Program.tree (Line.visible draft.buffer.text) = .ok node ↔
              Program.tree (Line.visible draft.bare) = .ok node)) ∧
          draft.enter?.map Console.Draft.buffer = draft.buffer.enter? ∧
          ∀ next, draft.enter? = some next → next.bare = (draft.broken 0).bare := by
  refine ⟨?_, ?_, fun draft => ⟨?_, draft.map_buffer_enter?, ?_⟩⟩
  · intro source place count node behind
    exact Program.tree_inserted_blanks_iff count node behind
  · intro bare text node indents
    exact indents.tree_iff_and_visible node
  · intro node
    exact draft.indents_bare.tree_iff_and_visible node
  · intro next entered
    unfold Console.Draft.enter? at entered
    split at entered
    · cases entered
    · cases entered
      exact draft.bare_broken _

/-- A line break behind a comment, and an Enter in the middle of a block whose first line ends with
a comment. -/
theorem Program.tree_indented_of_block :
    ("1; // one\n2;".toList.take 10).getLast? = some '\n' ∧
      (∀ node,
        Program.tree "1; // one\n   2;" = .ok node ↔ Program.tree "1; // one\n2;" = .ok node) ∧
      ∃ draft next : Console.Draft,
        draft.buffer = ⟨"if (1 < 2) \x7b // one", "2;"⟩ ∧
          draft.enter? = some next ∧
          next.buffer = ⟨"if (1 < 2) \x7b // one\n    ", "2;"⟩ ∧
          next.bare = "if (1 < 2) \x7b // one\n2;" ∧
          ∃ (finished : Console.Draft) (tree : Node),
            finished = ⟨next.before, next.after ++ [.other '\x7d']⟩ ∧
              tree =
                .plain .body
                  [.plain .conditional
                    [.comparison (.named .number "1") .less (.named .number "2"),
                      .plain .clause [.named .number "2"], .plain .null []]] ∧
              Program.tree finished.buffer.text = .ok tree ∧
              finished.bare = "if (1 < 2) \x7b // one\n2;\x7d" ∧
              Program.tree finished.bare = .ok tree := by
  have behind : ("1; // one\n2;".toList.take 10).getLast? = some '\n' := by decide +kernel
  have longer :
      inserted "1; // one\n2;" 10 (String.ofList (blanks 3)) = "1; // one\n   2;" := by
    decide +kernel
  let draft : Console.Draft :=
    ⟨"if (1 < 2) \x7b // one".toList.map .other, "2;".toList.map .other⟩
  let next := draft.broken 4
  let finished : Console.Draft := ⟨next.before, next.after ++ [.other '\x7d']⟩
  have entered : draft.enter? = some next := by decide +kernel
  have bare : (draft.broken 0).bare = "if (1 < 2) \x7b // one\n2;" := by decide +kernel
  have accepted :
      Program.tree finished.buffer.text =
        .ok (.plain .body
          [.plain .conditional
            [.comparison (.named .number "1") .less (.named .number "2"),
              .plain .clause [.named .number "2"], .plain .null []]]) := by
    decide +kernel
  refine ⟨behind, fun node => ?_, draft, next, by decide +kernel, entered, by decide +kernel, ?_,
    finished, _, rfl, rfl, accepted, by decide +kernel, ?_⟩
  · rw [← longer]
    exact Program.tree_indented.1 _ 10 3 node behind
  · rw [← bare]
    exact (Program.tree_indented.2.2 draft).2.2 next entered
  · exact ((Program.tree_indented.2.2 finished).1 _).1.1 accepted

end Scriptlet
