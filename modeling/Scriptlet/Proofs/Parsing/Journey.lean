import Scriptlet.Proofs.Automaton.Lookahead
import Scriptlet.Proofs.Parsing.Soundness
import Scriptlet.Proofs.Parsing.Trail

/-!
# Journeys of the automaton

The automaton moves along lexemes alone, without a text. By induction on a derivation, it enters
the states of the trail while it reads the lexemes and pushes exactly that derivation, whatever the
stack below and the lexemes behind, as long as the state expects the derived symbol and the next
lexeme may follow it.
-/

namespace Scriptlet

theorem Production.program_notMem_rhs (production : Production) :
    Symbol.nonterminal .program ∉ production.rhs := by
  cases production <;> decide

namespace Stack

/-! ## Reading lexemes -/

/-- The terminal that comes next: that of the first lexeme, or the end of the input. -/
def ahead : List Lexeme → Terminal
  | [] => .endOfInput
  | lexeme :: _ => lexeme.1

/-- Puts states before those of a journey. -/
def prepend
    (states : List Automaton.State) :
    Option (List Automaton.State × ProgramDerivation) →
      Option (List Automaton.State × ProgramDerivation) :=
  Option.map fun found => (states ++ found.1, found.2)

/-- The states that the automaton enters with the given lexemes and the program that it finds at
their end, if it accepts them. -/
def journey :
    List Frame → List Lexeme → Option (List Automaton.State × ProgramDerivation)
  | stack, [] =>
      match settle .endOfInput stack with
      | .accept program => some ([], program)
      | _ => none
  | stack, (terminal, text) :: rest =>
      match settle terminal stack with
      | .shift target settled =>
          prepend [target]
            (journey (⟨target, .terminal terminal, .leaf terminal text⟩ :: settled) rest)
      | _ => none

theorem prepend_nil (found : Option (List Automaton.State × ProgramDerivation)) :
    prepend [] found = found := by
  simp [prepend]

theorem prepend_prepend
    (first second : List Automaton.State)
    (found : Option (List Automaton.State × ProgramDerivation)) :
    prepend first (prepend second found) = prepend (first ++ second) found := by
  cases found with
  | none => rfl
  | some found => simp [prepend]

theorem journey_congr
    {stack other : List Frame} {lexemes : List Lexeme}
    (same : settle (ahead lexemes) stack = settle (ahead lexemes) other) :
    journey stack lexemes = journey other lexemes := by
  cases lexemes with
  | nil =>
      have sameEnd : settle .endOfInput stack = settle .endOfInput other := same
      rw [journey, journey, sameEnd]
  | cons lexeme rest =>
      have sameNext : settle lexeme.1 stack = settle lexeme.1 other := same
      rw [journey, journey, sameNext]

theorem settle_of_move_settled
    {terminal : Terminal} {stack : List Frame} {result : Settled}
    (settled : move terminal stack = .settled result) :
    settle terminal stack = result := by
  unfold settle
  split
  · next found moved =>
      rw [settled] at moved
      cases moved
      rfl
  · next next moved =>
      rw [settled] at moved
      cases moved

theorem settle_of_move_reduced
    {terminal : Terminal} {stack next : List Frame}
    (reduced : move terminal stack = .reduced next) :
    settle terminal stack = settle terminal next := by
  rw [settle]
  split
  · next found moved =>
      rw [reduced] at moved
      cases moved
  · next other moved =>
      rw [reduced] at moved
      cases moved
      rfl

theorem journey_shift
    {stack : List Frame} {target : Automaton.State} {terminal : Terminal} {text : String}
    {rest : List Lexeme}
    (enters : Automaton.next? (state stack) (.terminal terminal) = some target) :
    journey stack ((terminal, text) :: rest) =
      prepend [target]
        (journey (⟨target, .terminal terminal, .leaf terminal text⟩ :: stack) rest) := by
  have shifted : move terminal stack = .settled (.shift target stack) := by
    simp only [move, Automaton.action?_of_next? enters]
  rw [journey, settle_of_move_settled shifted]

/-! ## Derivations are journeys -/

theorem move_of_stands_end
    {stack frames : List Frame} {production : Production} {terminal : Terminal}
    {parts : Derivations production.rhs}
    (framed : Framed parts frames)
    (standing :
      Automaton.stands (state (frames ++ stack)) production production.rhs.length = true)
    (follows : terminal ∈ Automaton.followersAt (state (frames ++ stack)) production.lhs) :
    move terminal (frames ++ stack) = reduce production (frames ++ stack) ∧
      take production.rhs (frames ++ stack) = some (parts, stack) := by
  constructor
  · simp only [move, Automaton.action?_of_stands_end standing follows]
  · exact take_eq_some_iff.2 ⟨frames, framed, rfl⟩

theorem ahead_mem_comingNext
    {symbols : List Symbol} (rest : Derivations symbols)
    {tail : List Lexeme} {following : List Terminal}
    (notProgram : ∀ symbol ∈ symbols, symbol ≠ .nonterminal .program)
    (follows : ahead tail ∈ following) :
    ahead (rest.lexemes ++ tail) ∈ Automaton.comingNext symbols following := by
  cases symbols with
  | nil =>
      cases rest with
      | nil => exact follows
  | cons symbol symbols =>
      obtain ⟨lexeme, others, lexemes, starts⟩ :=
        rest.exists_first_lexeme rfl (notProgram symbol (List.mem_cons_self ..))
      rw [lexemes]
      exact starts

mutual

/-- Reading the lexemes of a derivation enters the states of its trail and pushes the derivation,
whatever lies below it on the stack, if the next lexeme may follow it. -/
theorem journey_derivation
    {symbol : Symbol} (derivation : Derivation symbol)
    {stack : List Frame} {target : Automaton.State} {tail : List Lexeme}
    (notProgram : symbol ≠ .nonterminal .program)
    (enters : Automaton.next? (state stack) symbol = some target)
    (follows :
      ∀ derived, symbol = .nonterminal derived →
        ahead tail ∈ Automaton.followersAt (state stack) derived) :
    journey stack (derivation.lexemes ++ tail) =
      prepend (derivation.trail (state stack))
        (journey (⟨target, symbol, derivation⟩ :: stack) tail) := by
  match derivation with
  | .leaf terminal text =>
      rw [Derivation.lexemes, List.singleton_append, Derivation.trail, Automaton.enter, enters]
      exact journey_shift enters
  | .node production parts =>
      have goes : Automaton.goto? (state stack) production.lhs = some target := enters
      have starts : Automaton.stands (state stack) production 0 = true := by
        simp [Automaton.stands, goes]
      obtain ⟨frames, framed, travelled, standing, following⟩ :=
        journey_derivations parts (Nat.zero_le _) rfl starts (follows _ rfl)
      obtain ⟨moves, taken⟩ := move_of_stands_end framed standing following
      have different : production.lhs ≠ .program := fun isProgram => notProgram (isProgram ▸ rfl)
      have reduced :
          move (ahead tail) (frames ++ stack) =
            .reduced (⟨target, .nonterminal production.lhs, .node production parts⟩ :: stack) := by
        rw [moves, reduce, taken]
        simp [different, goes]
      rw [Derivation.lexemes, Derivation.trail, travelled]
      rw [journey_congr (settle_of_move_reduced reduced)]

/-- Reading the lexemes of the parts of a production that stand behind a position pushes these
parts and ends at the end of the production. -/
theorem journey_derivations
    {symbols : List Symbol} (parts : Derivations symbols)
    {stack : List Frame} {tail : List Lexeme} {production : Production} {dot : Nat}
    (inside : dot ≤ production.rhs.length)
    (behind : production.rhs.drop dot = symbols)
    (standing : Automaton.stands (state stack) production dot = true)
    (follows : ahead tail ∈ Automaton.followersAt (state stack) production.lhs) :
    ∃ frames,
      Framed parts frames ∧
        journey stack (parts.lexemes ++ tail) =
          prepend (parts.trail (state stack)) (journey (frames ++ stack) tail) ∧
        Automaton.stands (state (frames ++ stack)) production production.rhs.length = true ∧
        ahead tail ∈ Automaton.followersAt (state (frames ++ stack)) production.lhs := by
  match parts with
  | .nil =>
      have atEnd : dot = production.rhs.length :=
        Nat.le_antisymm inside (List.drop_eq_nil_iff.1 behind)
      subst atEnd
      exact ⟨[], .nil, (prepend_nil _).symm, standing, follows⟩
  | @Derivations.cons symbol symbols first rest =>
      obtain ⟨target, enters, standingNext, kept, coming⟩ :=
        Automaton.exists_next_of_stands standing behind
      have shorter : dot < production.rhs.length := by
        rcases Nat.lt_or_ge dot production.rhs.length with shorter | longer
        · exact shorter
        · rw [List.drop_eq_nil_of_le longer] at behind
          cases behind
      have behindNext : production.rhs.drop (dot + 1) = symbols := by
        rw [← List.tail_drop, behind]
        rfl
      have notProgram : ∀ other ∈ symbol :: symbols, other ≠ .nonterminal .program := by
        rintro other member rfl
        rw [← behind] at member
        exact production.program_notMem_rhs (List.mem_of_mem_drop member)
      have followsFirst :
          ∀ derived, symbol = .nonterminal derived →
            ahead (rest.lexemes ++ tail) ∈ Automaton.followersAt (state stack) derived := by
        intro derived isDerived
        apply coming derived isDerived
        apply ahead_mem_comingNext rest
        · exact fun other member => notProgram other (List.mem_cons_of_mem _ member)
        · exact follows
      have travelledFirst :=
        journey_derivation first (notProgram symbol (List.mem_cons_self ..)) enters followsFirst
      have standingPushed :
          Automaton.stands (state (⟨target, symbol, first⟩ :: stack)) production (dot + 1) = true :=
        standingNext
      obtain ⟨frames, framed, travelled, standingEnd, following⟩ :=
        journey_derivations rest shorter behindNext standingPushed (kept follows)
      have entered : Automaton.enter (state stack) symbol = target := by
        simp [Automaton.enter, enters]
      refine ⟨frames ++ [⟨target, symbol, first⟩], .cons target first framed, ?_, ?_, ?_⟩
      · rw [Derivations.lexemes, Derivations.trail, entered, List.append_assoc, travelledFirst,
          travelled, prepend_prepend, List.append_assoc]
        rfl
      · simpa using standingEnd
      · simpa using following

end

theorem journey_cast_program
    {symbol : Symbol} (derivation : Derivation symbol)
    (isProgram : symbol = .nonterminal .program) :
    journey [] derivation.lexemes =
      some (derivation.trail Automaton.start, derivation.cast isProgram) := by
  cases derivation with
  | leaf terminal text => cases isProgram
  | node production parts =>
      have lhs : production.lhs = .program := Symbol.nonterminal.inj isProgram
      have starts : Automaton.stands (state []) production 0 = true := by
        cases production <;> first | exact absurd lhs (by decide) | decide
      have follows : ahead [] ∈ Automaton.followersAt (state []) production.lhs := by
        rw [lhs]
        decide
      obtain ⟨frames, framed, travelled, standing, following⟩ :=
        journey_derivations parts (Nat.zero_le _) rfl starts follows
      obtain ⟨moves, taken⟩ := move_of_stands_end framed standing following
      have accepted :
          move (ahead []) (frames ++ []) =
            .settled (.accept ((Derivation.node production parts).cast isProgram)) := by
        rw [moves, reduce, taken]
        simp [lhs]
      have settles :
          settle .endOfInput (frames ++ []) =
            .accept ((Derivation.node production parts).cast isProgram) :=
        settle_of_move_settled accepted
      rw [List.append_nil] at travelled
      rw [Derivation.lexemes, Derivation.trail, travelled, journey, settles]
      simp [prepend, state]

/-- Every program is found again from its lexemes, along its trail. -/
theorem journey_program (derivation : ProgramDerivation) :
    journey [] derivation.lexemes = some (derivation.trail Automaton.start, derivation) :=
  journey_cast_program derivation rfl

/-! ## States that a journey enters -/

/-- States that are entered with lexemes, one for each: by shifting its terminal from some state. -/
abbrev Entered : List Lexeme → List Automaton.State → Prop :=
  List.Forall₂ fun lexeme target =>
    ∃ below, Automaton.next? below (.terminal lexeme.1) = some target

theorem entered_of_journey
    {stack : List Frame} {lexemes : List Lexeme} {states : List Automaton.State}
    {program : ProgramDerivation}
    (linked : Linked stack)
    (travelled : journey stack lexemes = some (states, program)) :
    Entered lexemes states := by
  induction lexemes generalizing stack states with
  | nil =>
      rw [journey] at travelled
      split at travelled
      · cases travelled
        exact .nil
      · cases travelled
  | cons lexeme rest inductionHypothesis =>
      rw [journey] at travelled
      split at travelled
      · next target settled shifted =>
          obtain ⟨⟨entered, found⟩, continued, same⟩ := Option.map_eq_some_iff.1 travelled
          cases same
          have kept := settle_keeps lexeme.1 linked
          rw [shifted] at kept
          obtain ⟨linkedSettled, _, enters⟩ := kept
          let pushed : List Frame :=
            ⟨target, .terminal lexeme.1, .leaf lexeme.1 lexeme.2⟩ :: settled
          have linkedPushed : Linked pushed := ⟨enters, linkedSettled⟩
          exact .cons ⟨_, enters⟩ (inductionHypothesis linkedPushed continued)
      · cases travelled

/-! ## Terminals that a journey shifts are allowed -/

theorem allows_of_settle_ne_reject
    {terminal : Terminal} {stack : List Frame}
    (unrejected : settle terminal stack ≠ .reject stack) :
    Automaton.allows (state stack) terminal = true := by
  unfold Automaton.allows
  cases action : Automaton.action? (state stack) terminal with
  | some _ => rfl
  | none =>
      have rejected : move terminal stack = .settled (.reject stack) := by
        simp only [move, action]
      exact absurd (settle_of_move_settled rejected) unrejected

theorem allows_of_settle_shift
    {terminal : Terminal} {stack settled : List Frame} {target : Automaton.State}
    (shifted : settle terminal stack = .shift target settled) :
    Automaton.allows (state stack) terminal = true := by
  apply allows_of_settle_ne_reject
  rw [shifted]
  exact Settled.noConfusion

/-- A journey ends in a state in which the input may end. -/
theorem allows_endOfInput_of_journey
    {stack : List Frame} {lexemes : List Lexeme} {states : List Automaton.State}
    {program : ProgramDerivation} {final : Automaton.State}
    (travelled : journey stack lexemes = some (states, program))
    (isLast : (state stack :: states).getLast? = some final) :
    Automaton.allows final .endOfInput = true := by
  induction lexemes generalizing stack states with
  | nil =>
      rw [journey] at travelled
      split at travelled
      · next found accepted =>
          cases travelled
          cases isLast
          apply allows_of_settle_ne_reject
          rw [accepted]
          exact Settled.noConfusion
      · cases travelled
  | cons lexeme rest inductionHypothesis =>
      rw [journey] at travelled
      split at travelled
      · next target settled shifted =>
          obtain ⟨⟨entered, found⟩, continued, same⟩ := Option.map_eq_some_iff.1 travelled
          cases same
          exact inductionHypothesis continued isLast
      · cases travelled

end Stack

end Scriptlet
