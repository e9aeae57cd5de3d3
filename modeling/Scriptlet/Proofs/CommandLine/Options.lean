import Scriptlet.CommandLine

/-!
# Spelling and order of options

The path of a grammar may be an argument of its own or a part of the option, and the option for the
tree may stand anywhere among the arguments that are not such a path. Neither changes the report of
a run, also where an argument ends the reading before the options come up.
-/

namespace Scriptlet.CommandLine

/-! ## Places among arguments -/

/-- Whether a place is taken by the path of a grammar option: the argument before it is that option
and not itself such a path. -/
def isPathPlace (arguments : List String) : (place : Nat) → Bool
  | 0 => false
  | place + 1 => arguments[place]? == some "--grammar" && !isPathPlace arguments place

theorem isPathPlace_cons_succ
    {argument : String} (rest : List String)
    (notGrammar : argument ≠ "--grammar") (place : Nat) :
    isPathPlace (argument :: rest) (place + 1) = isPathPlace rest place := by
  induction place with
  | zero => simp [isPathPlace, notGrammar]
  | succ place inductionHypothesis =>
      rw [isPathPlace, inductionHypothesis, List.getElem?_cons_succ, ← isPathPlace]

theorem isPathPlace_grammar_succ (path : String) (rest : List String) (place : Nat) :
    isPathPlace ("--grammar" :: path :: rest) (place + 2) = isPathPlace rest place := by
  induction place with
  | zero => simp [isPathPlace]
  | succ place inductionHypothesis =>
      rw [isPathPlace, inductionHypothesis, List.getElem?_cons_succ, List.getElem?_cons_succ,
        ← isPathPlace]

/-- Arguments in which every grammar option is followed by its path. -/
inductive Complete : List String → Prop
  | nil : Complete []
  | grammar (path : String) {rest : List String} :
      Complete rest → Complete ("--grammar" :: path :: rest)
  | other {argument : String} {rest : List String} :
      argument ≠ "--grammar" → Complete rest → Complete (argument :: rest)

/-- The arguments before a place are complete unless the place is one for a path. The induction
takes a grammar option and its path together, and every other argument alone. -/
theorem complete_take :
    ∀ {arguments : List String} {place : Nat},
      place ≤ arguments.length → isPathPlace arguments place = false →
        Complete (arguments.take place)
  | _, 0, _, _ => .nil
  | [], _ + 1, within, _ => by simp at within
  | argument :: rest, place + 1, within, notPath => by
      by_cases isGrammar : argument = "--grammar"
      · subst isGrammar
        match rest, place, within, notPath with
        | _, 0, _, notPath => simp [isPathPlace] at notPath
        | [], _ + 1, within, _ => simp at within
        | path :: rest, place + 1, within, notPath =>
            rw [isPathPlace_grammar_succ] at notPath
            exact .grammar path (complete_take (by simpa using within) notPath)
      · rw [isPathPlace_cons_succ rest isGrammar] at notPath
        exact .other isGrammar (complete_take (by simpa using within) notPath)

/-! ## Reading one argument -/

/-- What an argument other than the grammar option does to the options read so far: it changes
them, or it ends the reading with a request. -/
def Options.heed (options : Options) (argument : String) : Except Request Options :=
  if argument = "--tree" then
    .ok { options with showTree := true }
  else if argument = "--repl" then
    .error .interactive
  else
    match grammarPath? argument with
    | some path => .ok { options with grammar := some path }
    | none =>
        match options.source with
        | none => .ok { options with source := some argument }
        | some _ => .error (.unexpected argument)

theorem ofArguments_cons
    {argument : String} (options : Options) (rest : List String)
    (notGrammar : argument ≠ "--grammar") :
    Request.ofArguments options (argument :: rest) =
      match options.heed argument with
      | .ok next => Request.ofArguments next rest
      | .error request => request := by
  rw [Request.ofArguments.eq_def, Options.heed]
  dsimp only
  rw [if_neg notGrammar]
  split
  · rfl
  · split
    · rfl
    · cases grammarPath? argument with
      | some path => rfl
      | none => cases options.source <;> rfl

theorem ofArguments_grammar (options : Options) (path : String) (rest : List String) :
    Request.ofArguments options ("--grammar" :: path :: rest) =
      Request.ofArguments { options with grammar := some path } rest :=
  rfl

/-- The options with the tree asked for. -/
def Options.shown (options : Options) : Options :=
  { options with showTree := true }

/-- No argument looks at whether the tree is asked for. -/
theorem heed_shown (options : Options) (argument : String) :
    options.shown.heed argument = (options.heed argument).map Options.shown := by
  unfold Options.heed
  split
  · rfl
  · split
    · rfl
    · cases grammarPath? argument with
      | some path => rfl
      | none => cases named : options.source <;> simp [Options.shown, named, Except.map]

theorem grammarPath?_append (path : String) :
    grammarPath? ("--grammar=" ++ path) = some path := by
  simp [grammarPath?, String.toList_append]

theorem joined_ne
    (path : String) {argument : String}
    (noPath : grammarPath? argument = none) :
    "--grammar=" ++ path ≠ argument := by
  rintro rfl
  rw [grammarPath?_append] at noPath
  cases noPath

/-- A path in one piece with its option is the path of the grammar. -/
theorem heed_joined (options : Options) (path : String) :
    options.heed ("--grammar=" ++ path) = .ok { options with grammar := some path } := by
  have notTree : "--grammar=" ++ path ≠ "--tree" := joined_ne path (by decide)
  have notRepl : "--grammar=" ++ path ≠ "--repl" := joined_ne path (by decide)
  rw [Options.heed, if_neg notTree, if_neg notRepl, grammarPath?_append]

/-! ## Reading many arguments -/

namespace Complete

variable {front : List String}

/-- What is read behind complete arguments may be exchanged for what reads the same. -/
theorem ofArguments_congr
    (complete : Complete front) {left right : List String}
    (same : ∀ options, Request.ofArguments options left = Request.ofArguments options right)
    (options : Options) :
    Request.ofArguments options (front ++ left) =
      Request.ofArguments options (front ++ right) := by
  induction complete generalizing options with
  | nil => exact same options
  | grammar path _ inductionHypothesis =>
      exact inductionHypothesis { options with grammar := some path }
  | other notGrammar _ inductionHypothesis =>
      rw [List.cons_append, List.cons_append, ofArguments_cons options _ notGrammar,
        ofArguments_cons options _ notGrammar]
      cases options.heed _ with
      | ok next => exact inductionHypothesis next
      | error request => rfl

/-- Behind complete arguments the option for the tree does what it does in front of them. -/
theorem ofArguments_tree
    (complete : Complete front) (back : List String) (options : Options) :
    Request.ofArguments options (front ++ "--tree" :: back) =
      Request.ofArguments options.shown (front ++ back) := by
  induction complete generalizing options with
  | nil => exact ofArguments_cons options back (by decide)
  | grammar path _ inductionHypothesis =>
      exact inductionHypothesis { options with grammar := some path }
  | other notGrammar _ inductionHypothesis =>
      rw [List.cons_append, List.cons_append, ofArguments_cons options _ notGrammar,
        ofArguments_cons options.shown _ notGrammar, heed_shown]
      cases options.heed _ with
      | ok next => exact inductionHypothesis next
      | error request => rfl

end Complete

/-! ## Changes to arguments -/

/-- The arguments with the two from a place on replaced by a grammar option in one piece. -/
def joined (arguments : List String) (place : Nat) (path : String) : List String :=
  arguments.take place ++ ("--grammar=" ++ path) :: arguments.drop (place + 2)

/-- The arguments with the one at a place left out and the option for the tree put in at another
place among the rest. -/
def moved (arguments : List String) (origin target : Nat) : List String :=
  let rest := arguments.eraseIdx origin
  rest.take target ++ "--tree" :: rest.drop target

theorem ofArguments_joined
    {arguments : List String} {place : Nat} {path : String} (options : Options)
    (notPath : isPathPlace arguments place = false)
    (isGrammar : arguments[place]? = some "--grammar")
    (isPath : arguments[place + 1]? = some path) :
    Request.ofArguments options (joined arguments place path) =
      Request.ofArguments options arguments := by
  obtain ⟨within, grammarAt⟩ := List.getElem?_eq_some_iff.1 isGrammar
  obtain ⟨pathWithin, pathAt⟩ := List.getElem?_eq_some_iff.1 isPath
  have apart : arguments.drop place = "--grammar" :: path :: arguments.drop (place + 2) := by
    rw [List.drop_eq_getElem_cons within, List.drop_eq_getElem_cons pathWithin, grammarAt, pathAt]
  have notGrammar : "--grammar=" ++ path ≠ "--grammar" := joined_ne path (by decide)
  have complete := complete_take (Nat.le_of_lt within) notPath
  calc
    Request.ofArguments options (joined arguments place path)
    _ = Request.ofArguments options (arguments.take place ++ arguments.drop place) := by
      refine complete.ofArguments_congr (fun options => ?_) options
      rw [apart, ofArguments_grammar, ofArguments_cons options _ notGrammar, heed_joined]
    _ = Request.ofArguments options arguments := by rw [List.take_append_drop]

theorem ofArguments_moved
    {arguments : List String} {origin target : Nat} (options : Options)
    (notPath : isPathPlace arguments origin = false)
    (isTree : arguments[origin]? = some "--tree")
    (within : target < arguments.length)
    (targetNotPath : isPathPlace (arguments.eraseIdx origin) target = false) :
    Request.ofArguments options (moved arguments origin target) =
      Request.ofArguments options arguments := by
  obtain ⟨originWithin, treeAt⟩ := List.getElem?_eq_some_iff.1 isTree
  have apart : arguments = arguments.take origin ++ "--tree" :: arguments.drop (origin + 1) := by
    rw [← treeAt, ← List.drop_eq_getElem_cons originWithin, List.take_append_drop]
  have targetWithin : target ≤ (arguments.eraseIdx origin).length := by
    rw [List.length_eraseIdx_of_lt originWithin]
    omega
  have complete := complete_take (Nat.le_of_lt originWithin) notPath
  have restComplete := complete_take targetWithin targetNotPath
  calc
    Request.ofArguments options (moved arguments origin target)
    _ = Request.ofArguments options.shown (arguments.eraseIdx origin) := by
      rw [moved, restComplete.ofArguments_tree, List.take_append_drop]
    _ = Request.ofArguments options arguments := by
      rw [List.eraseIdx_eq_take_drop_succ, ← complete.ofArguments_tree, ← apart]

/-! ## Runs -/

/-- Joining a grammar option to its path does not change the report of a run, nor does moving the
option for the tree to a place that is not one for a path. -/
theorem run_joined_and_moved (surroundings : Surroundings) (arguments : List String) :
    (∀ place path,
        isPathPlace arguments place = false →
          arguments[place]? = some "--grammar" →
          arguments[place + 1]? = some path →
          run surroundings (joined arguments place path) = run surroundings arguments) ∧
      ∀ origin target,
        isPathPlace arguments origin = false →
          arguments[origin]? = some "--tree" →
          target < arguments.length →
          isPathPlace (arguments.eraseIdx origin) target = false →
          run surroundings (moved arguments origin target) = run surroundings arguments := by
  constructor
  · intro place path notPath isGrammar isPath
    rw [run, ofArguments_joined {} notPath isGrammar isPath, ← run]
  · intro origin target notPath isTree within targetNotPath
    rw [run, ofArguments_moved {} notPath isTree within targetNotPath, ← run]

/-! ## A grammar in a file -/

/-- The text of a grammar whose only programs are digits. -/
def digitGrammar : String :=
  "start: number\nnumber: /[0-9]/\n"

/-- Surroundings in which a file with the name of an option holds that grammar. Of its front end
only the tree of one program is needed. -/
def digitSurroundings : Surroundings where
  input := .empty
  entry := (Directory.ofFiles [("--tree", digitGrammar.toUTF8)]).entry
  tracing := none
  prompted := []
  frontEnd grammar source :=
    if grammar = digitGrammar ∧ source = "7" then
      .ok (Node.plain .body [Node.named .number "7"])
    else
      .error (.crash (.frontEnd "LarkError" "unknown"))

/-- The first `--tree` is the path of the grammar and the second one the option. The program is one
of that grammar, but none of the language's own. -/
theorem run_joined_and_moved_of_two_trees :
    (Program.tree "7").isOk = false ∧
      joined ["7", "--grammar", "--tree", "--tree"] 1 "--tree" =
        ["7", "--grammar=--tree", "--tree"] ∧
      moved ["7", "--grammar", "--tree", "--tree"] 3 0 = ["--tree", "7", "--grammar", "--tree"] ∧
      run digitSurroundings ["7", "--grammar", "--tree", "--tree"] =
        ⟨.exit 0, .out "body\n  number\t'7'\n"⟩ ∧
      run digitSurroundings ["7", "--grammar=--tree", "--tree"] =
        ⟨.exit 0, .out "body\n  number\t'7'\n"⟩ ∧
      run digitSurroundings ["--tree", "7", "--grammar", "--tree"] =
        ⟨.exit 0, .out "body\n  number\t'7'\n"⟩ := by
  have shown :
      run digitSurroundings ["7", "--grammar", "--tree", "--tree"] =
        ⟨.exit 0, .out "body\n  number\t'7'\n"⟩ := by
    decide +kernel
  have same := run_joined_and_moved digitSurroundings ["7", "--grammar", "--tree", "--tree"]
  have sameJoined := same.1 1 "--tree" (by decide) rfl rfl
  have sameMoved := same.2 3 0 (by decide) rfl (by decide) (by decide)
  exact
    ⟨by decide +kernel, by decide, by decide, shown, sameJoined.trans shown,
      sameMoved.trans shown⟩

end Scriptlet.CommandLine
