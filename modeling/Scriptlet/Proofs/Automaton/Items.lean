import Scriptlet.Parsing.Stack

/-!
# Positions of the automaton

A state of the automaton stands for positions in productions. The table says which by the kernel
of a state; to these come the starts of the productions of every nonterminal that the state
expects. This module checks once, over the whole table, that entering a state by a symbol moves
positions over that symbol, and draws the consequence for stacks: when a state calls for a
reduction, the right side of the production lies on top of the stack, and the state below it
expects the left side.
-/

namespace Scriptlet

namespace Automaton

/-! ## Transitions and positions -/

/-- Where a state goes with a symbol, be it shifted or reduced to. -/
def next? (state : State) : Symbol → Option State
  | .terminal terminal => (row state).shifts.lookup terminal
  | .nonterminal derived => goto? state derived

/-- Whether a state stands for a position in a production: the position is one of its kernel, or
the start of a production of a nonterminal that the state expects. -/
def stands (state : State) (production : Production) (dot : Nat) : Bool :=
  (row state).kernel.contains (production, dot) ||
    (dot == 0 && (goto? state production.lhs).isSome)

def Row.transitions (row : Row) : List (Symbol × State) :=
  row.shifts.map (fun entry => (.terminal entry.1, entry.2)) ++
    row.gotos.map (fun entry => (.nonterminal entry.1, entry.2))

/-- Whether a position lies right after a symbol in a production, and the state stands for the
position before that symbol. -/
def passes (state : State) (symbol : Symbol) : Production × Nat → Bool
  | (_, 0) => false
  | (production, dot + 1) =>
      production.rhs[dot]? == some symbol && stands state production dot

/-! ## Checks of the whole table -/

/-- Every transition enters a state other than the first one, and every position of the entered
state has passed the symbol of the transition. -/
def transitionsChecked : Bool :=
  (List.range rows.length).all fun state =>
    (row state).transitions.all fun transition =>
      transition.2 != start && (row transition.2).kernel.all (passes state transition.1)

theorem transitionsChecked_eq_true : transitionsChecked = true := by
  decide +kernel

/-- A state reduces by a production only if it stands for its end, and by a production of a whole
program only at the end of the input. -/
def reductionsChecked : Bool :=
  (List.range rows.length).all fun state =>
    (row state).reduction.all fun reduction =>
      stands state reduction.1 reduction.1.rhs.length &&
        (reduction.1.lhs != .program || reduction.2 == [.endOfInput])

theorem reductionsChecked_eq_true : reductionsChecked = true := by
  decide +kernel

/-- The end of the input is never shifted, and only the first state expects a program. -/
def endingsChecked : Bool :=
  (List.range rows.length).all fun state =>
    (row state).shifts.all (·.1 != .endOfInput) &&
      (state == start || (goto? state .program).isNone)

theorem endingsChecked_eq_true : endingsChecked = true := by
  decide +kernel

/-! ## What the checks say about one state -/

theorem lt_length_of_row_ne
    {state : State}
    (nonempty : row state ≠ {}) :
    state < rows.length := by
  rcases Nat.lt_or_ge state rows.length with inside | outside
  · exact inside
  · have empty : row state = {} := by
      simp [row, List.getD, List.getElem?_eq_none outside]
    exact absurd empty nonempty

theorem mem_of_lookup_eq_some
    {α β : Type} [BEq α] [LawfulBEq α] {key : α} {value : β} {entries : List (α × β)}
    (found : entries.lookup key = some value) :
    (key, value) ∈ entries := by
  obtain ⟨before, after, rfl, _⟩ := List.lookup_eq_some_iff.1 found
  simp

theorem mem_transitions_of_next?
    {state target : State} {symbol : Symbol}
    (enters : next? state symbol = some target) :
    (symbol, target) ∈ (row state).transitions := by
  cases symbol with
  | terminal terminal =>
      have member := mem_of_lookup_eq_some enters
      exact List.mem_append_left _ (List.mem_map.2 ⟨_, member, rfl⟩)
  | nonterminal derived =>
      have member := mem_of_lookup_eq_some enters
      exact List.mem_append_right _ (List.mem_map.2 ⟨_, member, rfl⟩)

private theorem transition_checked
    {state target : State} {symbol : Symbol}
    (enters : next? state symbol = some target) :
    target ≠ start ∧
      ∀ position ∈ (row target).kernel, passes state symbol position = true := by
  have member := mem_transitions_of_next? enters
  have inside : state < rows.length := by
    apply lt_length_of_row_ne
    intro empty
    rw [empty] at member
    simp [Row.transitions] at member
  have checked := List.all_eq_true.1 transitionsChecked_eq_true state (List.mem_range.2 inside)
  simpa using List.all_eq_true.1 checked _ member

theorem next?_ne_start
    {state target : State} {symbol : Symbol}
    (enters : next? state symbol = some target) :
    target ≠ start :=
  (transition_checked enters).1

/-- A position of an entered state has passed the symbol it was entered by. -/
theorem exists_position_before
    {state target : State} {symbol : Symbol} {production : Production} {dot : Nat}
    (enters : next? state symbol = some target)
    (member : (production, dot) ∈ (row target).kernel) :
    ∃ earlier,
      dot = earlier + 1 ∧ production.rhs[earlier]? = some symbol ∧
        stands state production earlier = true := by
  have passed := (transition_checked enters).2 _ member
  cases dot with
  | zero => cases passed
  | succ earlier =>
      simp only [passes, Bool.and_eq_true, beq_iff_eq] at passed
      exact ⟨earlier, rfl, passed⟩

/-- What a state's call for a reduction says about the state and the terminal. -/
theorem stands_of_action?_reduce
    {state : State} {terminal : Terminal} {production : Production}
    (called : action? state terminal = some (.reduce production)) :
    stands state production production.rhs.length = true ∧
      (production.lhs = .program → terminal = .endOfInput) := by
  unfold action? Row.action? at called
  split at called
  · cases called
  · split at called
    · next reducedBy calls reduction =>
        split at called
        · next member =>
            cases called
            have inside : state < rows.length := by
              apply lt_length_of_row_ne
              intro empty
              rw [empty] at reduction
              cases reduction
            have checked :=
              List.all_eq_true.1 reductionsChecked_eq_true state (List.mem_range.2 inside)
            rw [reduction] at checked
            simp only [Option.all_some, Bool.and_eq_true, Bool.or_eq_true, bne_iff_ne, ne_eq,
              beq_iff_eq] at checked
            refine ⟨checked.1, fun isProgram => ?_⟩
            have calledFor : calls = [.endOfInput] :=
              checked.2.resolve_left fun other => other isProgram
            rw [calledFor] at member
            simpa using member
        · cases called
    · cases called

private theorem ending_checked {state : State} (inside : state < rows.length) :
    (∀ entry ∈ (row state).shifts, entry.1 ≠ .endOfInput) ∧
      (state = start ∨ goto? state .program = none) := by
  have checked := List.all_eq_true.1 endingsChecked_eq_true state (List.mem_range.2 inside)
  simpa using checked

theorem next?_endOfInput (state : State) : next? state (.terminal .endOfInput) = none := by
  cases shifted : next? state (.terminal .endOfInput) with
  | none => rfl
  | some target =>
      have member := mem_of_lookup_eq_some shifted
      have inside : state < rows.length := by
        apply lt_length_of_row_ne
        intro empty
        rw [empty] at member
        cases member
      exact absurd rfl ((ending_checked inside).1 _ member)

theorem eq_start_of_goto?_program
    {state : State}
    (expects : (goto? state .program).isSome = true) :
    state = start := by
  have inside : state < rows.length := by
    apply lt_length_of_row_ne
    intro empty
    simp [goto?, empty] at expects
  rcases (ending_checked inside).2 with first | none
  · exact first
  · rw [none] at expects
    cases expects

theorem next?_of_action?_shift
    {state target : State} {terminal : Terminal}
    (called : action? state terminal = some (.shift target)) :
    next? state (.terminal terminal) = some target := by
  unfold action? Row.action? at called
  split at called
  · next shifted =>
      cases called
      exact shifted
  · split at called
    · split at called <;> cases called
    · cases called

theorem action?_of_next?
    {state target : State} {terminal : Terminal}
    (shifts : next? state (.terminal terminal) = some target) :
    action? state terminal = some (.shift target) := by
  simp only [next?] at shifts
  simp only [action?, Row.action?, shifts]

end Automaton

end Scriptlet
