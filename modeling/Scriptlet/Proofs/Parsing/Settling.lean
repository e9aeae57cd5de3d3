import Scriptlet.Proofs.Automaton.Items

/-!
# Settling keeps what was read

Two facts hold of every stack that parsing meets. Its frames are linked: each state is the one
that the automaton enters from the state below by the frame's symbol. And its lexemes, from the
lowest frame up, are those read so far. This module shows that settling a linked stack never gets
stuck, keeps the lexemes, and accepts a program only if the program has all of them.
-/

namespace Scriptlet

namespace Stack

/-! ## Linked stacks and their lexemes -/

/-- Every frame holds the state entered from the one below by the frame's symbol. -/
def Linked : List Frame → Prop
  | [] => True
  | frame :: below =>
      Automaton.next? (state below) frame.symbol = some frame.state ∧ Linked below

/-- The lexemes of a stack, those of the lowest frame first. -/
def lexemes : List Frame → List Lexeme
  | [] => []
  | frame :: below => lexemes below ++ frame.derivation.lexemes

theorem lexemes_append (frames below : List Frame) :
    lexemes (frames ++ below) = lexemes below ++ lexemes frames := by
  induction frames with
  | nil => simp [lexemes]
  | cons frame frames inductionHypothesis =>
      simp only [List.cons_append, lexemes, inductionHypothesis, List.append_assoc]

theorem eq_nil_of_state_eq_start
    {stack : List Frame}
    (linked : Linked stack)
    (first : state stack = Automaton.start) :
    stack = [] := by
  cases stack with
  | nil => rfl
  | cons frame below => exact absurd first (Automaton.next?_ne_start linked.1)

/-! ## Derivations laid out in frames -/

/-- Frames that hold the given derivations, the last one uppermost. -/
inductive Framed : {symbols : List Symbol} → Derivations symbols → List Frame → Prop
  | nil : Framed .nil []
  | cons {symbol : Symbol} {symbols : List Symbol} {rest : Derivations symbols}
      {frames : List Frame} (entered : Automaton.State) (first : Derivation symbol) :
      Framed rest frames → Framed (.cons first rest) (frames ++ [⟨entered, symbol, first⟩])

theorem lexemes_of_framed
    {symbols : List Symbol} {parts : Derivations symbols} {frames : List Frame}
    (framed : Framed parts frames) :
    lexemes frames = parts.lexemes := by
  induction framed with
  | nil => rfl
  | cons entered first _ inductionHypothesis =>
      rw [lexemes_append, inductionHypothesis]
      simp [lexemes, Derivations.lexemes]

/-- Taking derivations from a stack is undoing their layout in frames. -/
theorem take_eq_some_iff
    {symbols : List Symbol} {stack below : List Frame} {parts : Derivations symbols} :
    take symbols stack = some (parts, below) ↔
      ∃ frames, Framed parts frames ∧ stack = frames ++ below := by
  induction symbols generalizing below with
  | nil =>
      cases parts with
      | nil =>
          constructor
          · intro taken
            cases taken
            exact ⟨[], .nil, rfl⟩
          · rintro ⟨frames, framed, rfl⟩
            cases framed
            rfl
  | cons symbol symbols inductionHypothesis =>
      cases parts with
      | cons first rest =>
          constructor
          · intro taken
            unfold take at taken
            split at taken
            · next takenRest frame deeper restTaken =>
                split at taken
                · next fits =>
                    obtain ⟨entered, held, derivation⟩ := frame
                    dsimp only at fits
                    subst fits
                    cases taken
                    obtain ⟨frames, framed, rfl⟩ := inductionHypothesis.1 restTaken
                    exact ⟨_, .cons entered derivation framed, by simp⟩
                · cases taken
            · cases taken
          · rintro ⟨_, framed, rfl⟩
            cases framed with
            | cons entered _ framedRest =>
                have restTaken := inductionHypothesis.2 ⟨_, framedRest, List.append_assoc ..⟩
                unfold take
                rw [restTaken]
                simp [Derivation.cast]

theorem exists_framed_reverse (frames : List Frame) :
    ∃ parts : Derivations (frames.map Frame.symbol), Framed parts frames.reverse := by
  induction frames with
  | nil => exact ⟨.nil, .nil⟩
  | cons frame frames inductionHypothesis =>
      obtain ⟨rest, framed⟩ := inductionHypothesis
      rw [List.reverse_cons]
      exact ⟨.cons frame.derivation rest, .cons frame.state frame.derivation framed⟩

/-! ## The right side of a reduction lies on the stack -/

/-- If the state of a linked stack stands for a position in a production, then the symbols before
that position lie on top of the stack, and the state below stands for the production's start. -/
theorem exists_frames_of_stands
    {stack : List Frame} {production : Production} {dot : Nat}
    (linked : Linked stack)
    (position : Automaton.stands (state stack) production dot = true) :
    ∃ frames below,
      stack = frames ++ below ∧ frames.reverse.map Frame.symbol = production.rhs.take dot ∧
        Linked below ∧ Automaton.stands (state below) production 0 = true := by
  induction dot generalizing stack with
  | zero => exact ⟨[], stack, rfl, by simp, linked, position⟩
  | succ dot inductionHypothesis =>
      have member : (production, dot + 1) ∈ (Automaton.row (state stack)).kernel := by
        simpa [Automaton.stands] using position
      cases stack with
      | nil => cases member
      | cons frame below =>
          obtain ⟨earlier, same, symbolThere, standing⟩ :=
            Automaton.exists_position_before linked.1 member
          cases same
          obtain ⟨frames, deeper, rfl, symbols, linkedDeeper, startThere⟩ :=
            inductionHypothesis linked.2 standing
          refine ⟨frame :: frames, deeper, rfl, ?_, linkedDeeper, startThere⟩
          rw [List.take_add_one, symbolThere, List.reverse_cons, List.map_append, symbols]
          rfl

theorem goto?_isSome_of_stands_zero
    {stack : List Frame} {production : Production}
    (linked : Linked stack)
    (position : Automaton.stands (state stack) production 0 = true) :
    (Automaton.goto? (state stack) production.lhs).isSome = true := by
  simp only [Automaton.stands, List.contains_iff_mem, Bool.or_eq_true, beq_self_eq_true,
    Bool.true_and] at position
  rcases position with member | expects
  · cases stack with
    | nil => cases member
    | cons frame below =>
        obtain ⟨earlier, impossible, _⟩ := Automaton.exists_position_before linked.1 member
        cases impossible
  · exact expects

/-! ## Moves keep what was read -/

/-- What settling a linked stack for a terminal may end in. -/
def Settled.Keeps (terminal : Terminal) (stack : List Frame) : Settled → Prop
  | .shift target settled =>
      Linked settled ∧ lexemes settled = lexemes stack ∧
        Automaton.next? (state settled) (.terminal terminal) = some target
  | .accept program => terminal = .endOfInput ∧ program.lexemes = lexemes stack
  | .reject reduced => Linked reduced ∧ lexemes reduced = lexemes stack
  | .stuck => False

/-- What a move of a linked stack may be. -/
def Move.Keeps (terminal : Terminal) (stack : List Frame) : Move → Prop
  | .reduced next => Linked next ∧ lexemes next = lexemes stack
  | .settled result => result.Keeps terminal stack

theorem lexemes_cast
    {symbol other : Symbol}
    (same : symbol = other)
    (derivation : Derivation symbol) :
    (derivation.cast same).lexemes = derivation.lexemes := by
  subst same
  rfl

/-- A reduction that the automaton calls for goes through: the parts are there, and the state
below them expects the left side. -/
theorem reduce_keeps
    {terminal : Terminal} {stack : List Frame} {production : Production}
    (linked : Linked stack)
    (called : Automaton.action? (state stack) terminal = some (.reduce production)) :
    (reduce production stack).Keeps terminal stack := by
  obtain ⟨standing, atEnd⟩ := Automaton.stands_of_action?_reduce called
  obtain ⟨frames, below, rfl, symbols, linkedBelow, startThere⟩ :=
    exists_frames_of_stands linked standing
  have expects := goto?_isSome_of_stands_zero linkedBelow startThere
  obtain ⟨parts, framed⟩ : ∃ parts : Derivations production.rhs, Framed parts frames := by
    have framed := exists_framed_reverse frames.reverse
    rwa [symbols, List.take_length, List.reverse_reverse] at framed
  have taken : take production.rhs (frames ++ below) = some (parts, below) :=
    take_eq_some_iff.2 ⟨frames, framed, rfl⟩
  have sameLexemes : lexemes (frames ++ below) = lexemes below ++ parts.lexemes := by
    rw [lexemes_append, lexemes_of_framed framed]
  unfold reduce
  rw [taken]
  dsimp only
  split
  · next isProgram =>
      rw [isProgram] at expects
      have empty : below = [] :=
        eq_nil_of_state_eq_start linkedBelow (Automaton.eq_start_of_goto?_program expects)
      subst empty
      refine ⟨atEnd isProgram, ?_⟩
      rw [lexemes_cast, sameLexemes]
      rfl
  · split
    · next unexpected =>
        rw [unexpected] at expects
        cases expects
    · next target goes =>
        exact ⟨⟨goes, linkedBelow⟩, sameLexemes.symm⟩

theorem move_keeps
    {stack : List Frame} (terminal : Terminal)
    (linked : Linked stack) :
    (move terminal stack).Keeps terminal stack := by
  unfold move
  split
  · exact ⟨linked, rfl⟩
  · next target shifts =>
      exact ⟨linked, rfl, Automaton.next?_of_action?_shift shifts⟩
  · next production called => exact reduce_keeps linked called

theorem Settled.Keeps.of_lexemes_eq
    {terminal : Terminal} {stack next : List Frame} {result : Settled}
    (kept : result.Keeps terminal next)
    (same : lexemes next = lexemes stack) :
    result.Keeps terminal stack := by
  cases result with
  | shift target settled => exact ⟨kept.1, kept.2.1.trans same, kept.2.2⟩
  | accept program => exact ⟨kept.1, kept.2.trans same⟩
  | reject reduced => exact ⟨kept.1, kept.2.trans same⟩
  | stuck => exact kept

/-- Settling a linked stack never gets stuck and loses no lexeme. -/
theorem settle_keeps
    {stack : List Frame} (terminal : Terminal)
    (linked : Linked stack) :
    (settle terminal stack).Keeps terminal stack := by
  induction size : weight stack using Nat.strongRecOn generalizing stack with
  | _ bound inductionHypothesis =>
      subst size
      have moved := move_keeps terminal linked
      unfold settle
      split
      · next result settled =>
          rw [settled] at moved
          exact moved
      · next next reduced =>
          rw [reduced] at moved
          have kept :=
            inductionHypothesis (weight next) (weight_move_lt reduced) moved.1 rfl
          exact kept.of_lexemes_eq moved.2

end Stack

end Scriptlet
