import Scriptlet.Proofs.Parsing.Soundness
import Scriptlet.Proofs.Tree.Occurrence

/-!
# Where line breaks are printed

The number of nodes of a kind in a tree, and the places where lowering puts the nodes that break a
line. Printing is a statement, so such a node stands below blocks, loops, declarations and the
branches of conditionals, but never below an operator, in a condition or among the arguments of a
call.
-/

namespace Scriptlet

namespace Node

/-! ## Counting nodes -/

mutual

/-- The number of nodes of a kind in a tree. -/
def count (kind : Kind) : Node → Nat
  | stray _ => 0
  | branch label children _ => (if label = .kind kind then 1 else 0) + countAll kind children

def countAll (kind : Kind) : List Node → Nat
  | [] => 0
  | first :: rest => count kind first + countAll kind rest

end

section Counting

variable (kind : Kind)

@[simp]
theorem countAll_nil : countAll kind [] = 0 :=
  rfl

@[simp]
theorem countAll_cons (first : Node) (rest : List Node) :
    countAll kind (first :: rest) = count kind first + countAll kind rest :=
  rfl

@[simp]
theorem count_branch (label : Label) (children : List Node) (payload : Option Payload) :
    count kind (.branch label children payload) =
      (if label = .kind kind then 1 else 0) + countAll kind children := by
  rw [count]

theorem countAll_eq_zero_iff {nodes : List Node} :
    countAll kind nodes = 0 ↔ ∀ node ∈ nodes, count kind node = 0 := by
  induction nodes with
  | nil => simp
  | cons first rest inductionHypothesis => simp [inductionHypothesis]

theorem count_le_countAll
    {node : Node} {nodes : List Node}
    (member : node ∈ nodes) :
    count kind node ≤ countAll kind nodes := by
  induction nodes with
  | nil => cases member
  | cons first rest inductionHypothesis =>
      rw [countAll_cons]
      rcases List.mem_cons.1 member with rfl | later
      · omega
      · have below := inductionHypothesis later
        omega

theorem count_le_of_contains
    {tree part : Node}
    (contained : tree.Contains part) :
    part.count kind ≤ tree.count kind := by
  obtain ⟨above, occurs⟩ := contained
  induction occurs with
  | root => exact Nat.le_refl _
  | @under above tree child member _ inductionHypothesis =>
      cases tree with
      | stray content => cases member
      | branch label children payload =>
          have below : child.count kind ≤ countAll kind children := count_le_countAll kind member
          rw [count_branch]
          omega

end Counting

/-! ## Expressions -/

/-- A tree in which no node breaks a line. -/
def Quiet (node : Node) : Prop :=
  node.count .println = 0

theorem quiet_branch
    {kind : Kind} {children : List Node} {payload : Option Payload}
    (notPrintln : kind ≠ .println)
    (quiet : ∀ child ∈ children, child.Quiet) :
    Quiet (.branch (.kind kind) children payload) := by
  rw [Quiet, count_branch, (countAll_eq_zero_iff _).2 quiet, if_neg (by simpa using notPrintln)]

theorem Quiet.children
    {label : Label} {children : List Node} {payload : Option Payload}
    (quiet : Quiet (.branch label children payload)) :
    ∀ child ∈ children, child.Quiet := by
  rw [Quiet, count_branch, Nat.add_eq_zero_iff] at quiet
  exact (countAll_eq_zero_iff _).1 quiet.2

theorem quiet_named
    {kind : Kind} (text : String)
    (notPrintln : kind ≠ .println) :
    Quiet (named kind text) :=
  quiet_branch notPrintln (List.forall_mem_nil _)

theorem quiet_references (names : List String) :
    ∀ node ∈ names.map reference, node.Quiet := by
  intro node member
  obtain ⟨name, _, rfl⟩ := List.mem_map.1 member
  exact quiet_named name nofun

theorem quiet_asCondition
    {node : Node}
    (quiet : node.Quiet) :
    node.asCondition.Quiet := by
  unfold asCondition
  split
  · exact quiet_branch nofun quiet.children
  · exact quiet_branch nofun quiet.children
  · exact quiet

theorem quiet_asVector
    {node : Node}
    (quiet : node.Quiet) :
    node.asVector.Quiet := by
  unfold asVector
  split
  · exact quiet_branch nofun quiet.children
  · exact quiet

theorem quiet_pair
    {kind : Kind} {left right : Node}
    (notPrintln : kind ≠ .println)
    (leftQuiet : left.Quiet)
    (rightQuiet : right.Quiet) :
    Quiet (plain kind [left, right]) :=
  quiet_branch notPrintln (by simp [leftQuiet, rightQuiet])

theorem quiet_chainOnto
    {kind : Kind} {left right : Node}
    (notPrintln : kind ≠ .println)
    (leftQuiet : left.Quiet)
    (rightQuiet : right.Quiet) :
    Quiet (chainOnto kind left right) := by
  unfold chainOnto
  split
  · have earlierQuiet : ∀ child ∈ left.children, child.Quiet := by
      cases left with
      | branch label children payload => exact leftQuiet.children
      | stray content => exact List.forall_mem_nil _
    exact quiet_branch notPrintln
      (List.forall_mem_append.2 ⟨earlierQuiet, List.forall_mem_singleton.2 rightQuiet⟩)
  · exact quiet_pair notPrintln leftQuiet rightQuiet

theorem quiet_compareWith
    {left right : Node} (operator : String)
    (leftQuiet : left.Quiet)
    (rightQuiet : right.Quiet) :
    Quiet (compareWith left operator right) := by
  have middleQuiet {kind : Kind} (notPrintln : kind ≠ .println) : Quiet (plain kind []) :=
    quiet_branch notPrintln (List.forall_mem_nil _)
  unfold compareWith
  split
  · exact quiet_branch nofun (by simp [leftQuiet, rightQuiet, middleQuiet])
  · exact quiet_branch nofun (by simp [leftQuiet, rightQuiet, middleQuiet])

theorem quiet_declareVars
    (names : List String) {initial : List Node}
    (quiet : ∀ node ∈ initial, node.Quiet) :
    Quiet (declareVars names initial) := by
  have listQuiet : Quiet (plain .identList (names.map reference)) :=
    quiet_branch nofun (quiet_references names)
  exact quiet_branch nofun (List.forall_mem_cons.2 ⟨listQuiet, quiet⟩)

theorem quiet_call
    (name : String) {args : List Node}
    (quiet : ∀ node ∈ args, node.Quiet) :
    Quiet (call name args) := by
  have listQuiet : Quiet (plain .expList args) := quiet_branch nofun quiet
  exact quiet_branch nofun (List.forall_mem_singleton.2 listQuiet)

/-! ## Statements -/

/-- A tree in which nodes that break a line stand only where statements do. -/
inductive Orderly : Node → Prop
  | quiet {node : Node} : node.Quiet → Orderly node
  | println {children : List Node} {payload : Option Payload} :
      (∀ child ∈ children, child.Quiet) →
      Orderly (.branch (.kind .println) children payload)
  | passing {kind : Kind} {children : List Node} {payload : Option Payload} :
      kind.role = .passThrough →
      (∀ child ∈ children, Orderly child) →
      Orderly (.branch (.kind kind) children payload)
  | choosing {condition chosen alternative : Node} {payload : Option Payload} :
      condition.Quiet →
      Orderly chosen →
      Orderly alternative →
      Orderly (.branch (.kind .conditional) [condition, chosen, alternative] payload)

/-- A loop or a declaration: quiet nodes before an orderly body. -/
theorem orderly_before
    {kind : Kind} {heads : List Node} {body : Node} {payload : Option Payload}
    (passes : kind.role = .passThrough)
    (quiet : ∀ head ∈ heads, head.Quiet)
    (orderly : body.Orderly) :
    Orderly (.branch (.kind kind) (heads ++ [body]) payload) :=
  .passing passes <|
    List.forall_mem_append.2
      ⟨fun head member => .quiet (quiet head member), List.forall_mem_singleton.2 orderly⟩

theorem orderly_declareFn
    (name : String) {params : List Node} {body : Node}
    (paramsQuiet : ∀ node ∈ params, node.Quiet)
    (bodyOrderly : body.Orderly) :
    Orderly (declareFn name params body) := by
  have listQuiet : Quiet (plain .identList params) := quiet_branch nofun paramsQuiet
  exact orderly_before rfl (List.forall_mem_singleton.2 listQuiet) bodyOrderly

end Node

open Node

/-- What is known about line breaks in the meaning of each symbol: expressions have none, and
statements are orderly. -/
def Symbol.Orderly : (symbol : Symbol) → symbol.Meaning → Prop
  | .terminal _, _ | .nonterminal .moreNames, _ => True
  | .nonterminal .params, nodes | .nonterminal .args, nodes | .nonterminal .moreExprs, nodes =>
      ∀ node ∈ nodes, node.Quiet
  | .nonterminal .expr, node | .nonterminal .orExpr, node | .nonterminal .andExpr, node
  | .nonterminal .notExpr, node | .nonterminal .cmpExpr, node | .nonterminal .sumExpr, node
  | .nonterminal .term, node | .nonterminal .unary, node | .nonterminal .atom, node => node.Quiet
  | .nonterminal .statements, nodes => ∀ node ∈ nodes, node.Orderly
  | .nonterminal .program, node | .nonterminal .statement, node | .nonterminal .printing, node
  | .nonterminal .printingLine, node | .nonterminal .varDecl, node | .nonterminal .fnDecl, node
  | .nonterminal .assign, node | .nonterminal .ifElse, node | .nonterminal .elseBranch, node
  | .nonterminal .whileLoop, node | .nonterminal .forLoop, node | .nonterminal .returning, node
  | .nonterminal .block, node => node.Orderly

theorem Production.action_orderly
    (production : Production) (parts : Meanings production.rhs)
    (orderly : Meanings.All Symbol.Orderly production.rhs parts) :
    Symbol.Orderly (.nonterminal production.lhs) (production.action .compact parts) := by
  cases production
  case statementOfPrint | statementOfPrintln | statementOfVar | statementOfFn | statementOfAssign |
      statementOfIf | statementOfWhile | statementOfFor | statementOfReturn | elseBlock | elseIf |
      exprOfOr | orOfAnd | andOfNot | notOfCmp | cmpOfSum | sumOfTerm | termOfUnary | unaryOfAtom =>
    exact orderly.1
  case statementOfExpr => exact .quiet orderly.1
  case atomParens => exact orderly.2.1
  case program => exact .passing rfl orderly.1
  case blockStatements => exact .passing rfl orderly.2.1
  case programEmpty | blockEmpty | returnEmpty | printEmpty =>
    exact .quiet (quiet_branch nofun (List.forall_mem_nil _))
  case printArgs => exact .quiet (quiet_branch nofun orderly.2.2.1)
  case printlnArgs => exact .println orderly.2.2.1
  case printlnEmpty => exact .println (List.forall_mem_nil _)
  case varManyInit =>
    obtain ⟨_, _, _, _, initialQuiet, _⟩ := orderly
    exact .quiet (quiet_declareVars _ (List.forall_mem_singleton.2 initialQuiet))
  case varOneInit =>
    obtain ⟨_, _, _, initialQuiet, _⟩ := orderly
    exact .quiet (quiet_declareVars _ (List.forall_mem_singleton.2 initialQuiet))
  case varMany | varOne => exact .quiet (quiet_declareVars _ (List.forall_mem_nil _))
  case fnParams =>
    obtain ⟨_, _, _, paramsQuiet, _, bodyOrderly, _⟩ := orderly
    exact orderly_declareFn _ paramsQuiet bodyOrderly
  case fnNoParams =>
    obtain ⟨_, _, _, _, bodyOrderly, _⟩ := orderly
    exact orderly_declareFn _ (List.forall_mem_nil _) bodyOrderly
  case paramsMany => exact quiet_references (_ :: _)
  case paramsOne => exact quiet_references [_]
  case assign =>
    obtain ⟨_, _, exprQuiet, _⟩ := orderly
    exact .quiet (quiet_pair nofun (quiet_named _ nofun) exprQuiet)
  case ifElse =>
    obtain ⟨_, _, conditionQuiet, _, bodyOrderly, _, otherOrderly, _⟩ := orderly
    exact .choosing (quiet_asCondition conditionQuiet) bodyOrderly otherOrderly
  case ifOnly =>
    obtain ⟨_, _, conditionQuiet, _, bodyOrderly, _⟩ := orderly
    have nullQuiet : Quiet (plain .null []) := quiet_branch nofun (List.forall_mem_nil _)
    exact .choosing (quiet_asCondition conditionQuiet) bodyOrderly (.quiet nullQuiet)
  case whileMany =>
    obtain ⟨_, _, conditionQuiet, conditionsQuiet, _, bodyOrderly, _⟩ := orderly
    have allQuiet := List.forall_mem_cons.2 ⟨conditionQuiet, conditionsQuiet⟩
    have listQuiet : Quiet (plain .conditionList (List.map asCondition _)) :=
      quiet_branch nofun (List.forall_mem_map.2 fun node member =>
        quiet_asCondition (allQuiet node member))
    exact orderly_before rfl (List.forall_mem_singleton.2 listQuiet) bodyOrderly
  case whileOne =>
    obtain ⟨_, _, conditionQuiet, _, bodyOrderly, _⟩ := orderly
    have headQuiet := quiet_asCondition conditionQuiet
    exact orderly_before rfl (List.forall_mem_singleton.2 headQuiet) bodyOrderly
  case forIn =>
    obtain ⟨_, _, _, sourceQuiet, bodyOrderly, _⟩ := orderly
    have vectorQuiet := List.forall_mem_singleton.2 (quiet_asVector sourceQuiet)
    refine orderly_before rfl (List.forall_mem_cons.2 ⟨?_, vectorQuiet⟩) bodyOrderly
    exact quiet_named _ nofun
  case returnExpr =>
    exact .quiet (quiet_branch nofun (List.forall_mem_singleton.2 orderly.2.1))
  case argsMany => exact List.forall_mem_cons.2 ⟨orderly.1, orderly.2.1⟩
  case argsOne | statementsOne => exact List.forall_mem_singleton.2 orderly.1
  case moreExprsOne => exact List.forall_mem_singleton.2 orderly.2.1
  case statementsMore =>
    obtain ⟨earlierOrderly, lastOrderly, _⟩ := orderly
    exact List.forall_mem_append.2 ⟨earlierOrderly, List.forall_mem_singleton.2 lastOrderly⟩
  case moreExprsMore =>
    obtain ⟨earlierQuiet, _, lastQuiet, _⟩ := orderly
    exact List.forall_mem_append.2 ⟨earlierQuiet, List.forall_mem_singleton.2 lastQuiet⟩
  case orChain | andChain =>
    obtain ⟨leftQuiet, _, rightQuiet, _⟩ := orderly
    exact quiet_chainOnto nofun (quiet_asCondition leftQuiet) (quiet_asCondition rightQuiet)
  case notBang =>
    exact quiet_branch nofun (List.forall_mem_singleton.2 (quiet_asCondition orderly.2.1))
  case cmpRelation =>
    obtain ⟨leftQuiet, _, rightQuiet, _⟩ := orderly
    exact quiet_compareWith _ leftQuiet rightQuiet
  case cmpIn =>
    obtain ⟨leftQuiet, _, rightQuiet, _⟩ := orderly
    exact quiet_pair nofun leftQuiet (quiet_asVector rightQuiet)
  case cmpNotIn =>
    obtain ⟨leftQuiet, _, _, rightQuiet, _⟩ := orderly
    exact quiet_pair nofun leftQuiet (quiet_asVector rightQuiet)
  case sumPlus =>
    obtain ⟨leftQuiet, _, rightQuiet, _⟩ := orderly
    exact quiet_chainOnto nofun leftQuiet rightQuiet
  case sumMinus =>
    obtain ⟨leftQuiet, _, rightQuiet, _⟩ := orderly
    have negatedQuiet : Quiet (plain .neg [_]) :=
      quiet_branch nofun (List.forall_mem_singleton.2 rightQuiet)
    exact quiet_chainOnto nofun leftQuiet negatedQuiet
  case termTimes | termDivide | termModulo =>
    obtain ⟨leftQuiet, _, rightQuiet, _⟩ := orderly
    exact quiet_pair nofun leftQuiet rightQuiet
  case unaryMinus | unaryPlus =>
    exact quiet_branch nofun (List.forall_mem_singleton.2 orderly.2.1)
  case atomNumber | atomString | atomName => exact quiet_named _ nofun
  case atomTrue | atomFalse | atomVectorEmpty => exact quiet_branch nofun (List.forall_mem_nil _)
  case atomCall =>
    obtain ⟨_, _, argsQuiet, _⟩ := orderly
    exact quiet_call _ argsQuiet
  case atomCallEmpty => exact quiet_call _ (List.forall_mem_nil _)
  case atomVector => exact quiet_branch nofun orderly.2.1
  case moreNamesOne | moreNamesMore => trivial

namespace Program

theorem exists_parsed_of_tree_eq_ok
    {source : String} {tree : Node}
    (accepted : Program.tree source = .ok tree) :
    ∃ parsed, Parsed.ofText source = .ok parsed ∧ parsed.tree .compact = tree := by
  unfold Program.tree at accepted
  split at accepted
  · next parsed succeeded => exact ⟨parsed, succeeded, Except.ok.inj accepted⟩
  · cases accepted

/-- The tree of an accepted text is orderly. -/
theorem tree_orderly
    {source : String} {tree : Node}
    (accepted : Program.tree source = .ok tree) :
    tree.Orderly := by
  obtain ⟨parsed, succeeded, rfl⟩ := exists_parsed_of_tree_eq_ok accepted
  exact parsed.derivation.lower_holds (fun _ _ _ => trivial) Production.action_orderly
    (Parsed.fits_of_ofText_eq_ok succeeded)

end Program

end Scriptlet
