import Scriptlet.Proofs.Grammar.Meaning
import Scriptlet.Proofs.Tree.Kinds

/-!
# Regular trees

The shape that evaluation relies on. In a regular tree every node has a known kind, as many
children as its kind takes and a payload that can be written, and the payload of a number is one of
the given numerals. The nodes that lowering builds carry, besides, only payloads that belong to
their kind. The tree of every derivation is built in this way for the numbers among its lexemes, and
so it is regular.
-/

namespace Scriptlet

/-- Whether a kind takes a number of children: kinds of a fixed arity just that many, and a
conditional its condition and two branches. -/
def Kind.takes (kind : Kind) (count : Nat) : Bool :=
  kind.arity?.all (· == count) && (kind != .conditional || count == 3)

namespace Node

/-- A tree whose nodes have what their kinds take, and whose numbers are the given numerals. -/
inductive Regular (numeral : String → Prop) : Node → Prop
  | branch {kind : Kind} {children : List Node} {payload : Option Payload} :
      kind.takes children.length = true →
      Payload.isWritable payload = true →
      (kind = .number → ∃ text, payload = some (.scalar (.text text)) ∧ numeral text) →
      (∀ child ∈ children, Regular numeral child) →
      Regular numeral (.branch (.kind kind) children payload)

/-- A tree as lowering builds it: regular, and with the payloads that lowering gives. -/
inductive Built (numeral : String → Prop) : Node → Prop
  | branch {kind : Kind} {children : List Node} {payload : Option Payload} :
      kind.takes children.length = true →
      kind.Bears payload →
      (kind = .number → ∃ text, payload = some (.scalar (.text text)) ∧ numeral text) →
      (∀ child ∈ children, Built numeral child) →
      Built numeral (.branch (.kind kind) children payload)

variable {numeral : String → Prop}

theorem Regular.children
    {node : Node}
    (regular : Regular numeral node) :
    ∀ child ∈ node.children, Regular numeral child := by
  cases regular with
  | branch _ _ _ childrenRegular => exact childrenRegular

theorem Built.regular
    {node : Node}
    (built : Built numeral node) :
    Regular numeral node := by
  induction built with
  | branch takes bears number _ inductionHypothesis =>
      exact .branch takes bears.isWritable number inductionHypothesis

/-! ## Nodes that lowering builds -/

theorem built_named_number
    {text : String}
    (isNumeral : numeral text) :
    Built numeral (named .number text) := by
  refine .branch rfl nofun (fun _ => ⟨text, rfl, isNumeral⟩) ?_
  simp

theorem Built.children
    {node : Node}
    (built : Built numeral node) :
    ∀ child ∈ node.children, Built numeral child := by
  cases built with
  | branch _ _ _ childrenBuilt => exact childrenBuilt

theorem built_of_takes
    {kind : Kind} {children : List Node} {payload : Option Payload}
    (takes : kind.takes children.length = true)
    (bears : kind.Bears payload)
    (notNumber : kind ≠ .number)
    (childrenBuilt : ∀ child ∈ children, Built numeral child) :
    Built numeral (.branch (.kind kind) children payload) :=
  .branch takes bears (fun isNumber => absurd isNumber notNumber) childrenBuilt

/-- A node of another kind may take over the children and the payload if neither kind is a
comparison. -/
theorem Built.relabel
    {kind other : Kind} {children : List Node} {payload : Option Payload}
    (built : Built numeral (.branch (.kind kind) children payload))
    (takes : other.takes children.length = true)
    (notComparison : kind ≠ .comparison ∧ other ≠ .comparison)
    (notNumber : other ≠ .number) :
    Built numeral (.branch (.kind other) children payload) := by
  cases built with
  | branch _ bears _ childrenBuilt =>
      exact built_of_takes takes (bears.of_ne notComparison.1 notComparison.2) notNumber
        childrenBuilt

theorem built_plain
    {kind : Kind} {children : List Node}
    (takes : kind.takes children.length = true)
    (notNumber : kind ≠ .number)
    (childrenBuilt : ∀ child ∈ children, Built numeral child) :
    Built numeral (plain kind children) :=
  built_of_takes takes trivial notNumber childrenBuilt

theorem built_pair
    {kind : Kind} {first second : Node}
    (takes : kind.takes 2 = true)
    (notNumber : kind ≠ .number)
    (firstBuilt : Built numeral first)
    (secondBuilt : Built numeral second) :
    Built numeral (plain kind [first, second]) :=
  built_plain takes notNumber (by simp [firstBuilt, secondBuilt])

theorem built_triple
    {kind : Kind} {first second third : Node}
    (takes : kind.takes 3 = true)
    (notNumber : kind ≠ .number)
    (firstBuilt : Built numeral first)
    (secondBuilt : Built numeral second)
    (thirdBuilt : Built numeral third) :
    Built numeral (plain kind [first, second, third]) :=
  built_plain takes notNumber (by simp [firstBuilt, secondBuilt, thirdBuilt])

theorem built_reference (name : String) : Built numeral (reference name) :=
  built_of_takes rfl nofun nofun (by simp)

theorem built_references (names : List String) :
    ∀ node ∈ names.map reference, Built numeral node := by
  intro node member
  obtain ⟨name, _, rfl⟩ := List.mem_map.1 member
  exact built_reference name

theorem built_declareVars
    (names : List String) {initial : List Node}
    (initialBuilt : ∀ node ∈ initial, Built numeral node) :
    Built numeral (declareVars names initial) := by
  refine built_plain rfl nofun (List.forall_mem_cons.2 ⟨?_, initialBuilt⟩)
  exact built_plain rfl nofun (built_references names)

theorem built_declareFn
    (name : String) {params : List Node} {body : Node}
    (paramsBuilt : ∀ node ∈ params, Built numeral node)
    (bodyBuilt : Built numeral body) :
    Built numeral (declareFn name params body) := by
  have listBuilt : Built numeral (plain .identList params) := built_plain rfl nofun paramsBuilt
  exact built_of_takes rfl nofun nofun (by simp [listBuilt, bodyBuilt])

theorem built_call
    (name : String) {args : List Node}
    (argsBuilt : ∀ node ∈ args, Built numeral node) :
    Built numeral (call name args) := by
  have listBuilt : Built numeral (plain .expList args) := built_plain rfl nofun argsBuilt
  exact built_of_takes rfl nofun nofun (by simp [listBuilt])

theorem built_compareWith
    {left right : Node} (operator : String)
    (leftBuilt : Built numeral left)
    (rightBuilt : Built numeral right) :
    Built numeral (compareWith left operator right) := by
  unfold compareWith
  split
  · next relation _ =>
      have markerBuilt : Built numeral (plain (.marker relation) []) := by
        refine built_plain ?_ nofun (by simp)
        cases relation <;> rfl
      exact built_of_takes rfl rfl nofun (by simp [leftBuilt, markerBuilt, rightBuilt])
  · have nullBuilt : Built numeral (plain .null []) := built_plain rfl nofun (by simp)
    exact built_triple rfl nofun leftBuilt nullBuilt rightBuilt

theorem built_asCondition
    {node : Node}
    (built : Built numeral node) :
    Built numeral node.asCondition := by
  unfold asCondition
  split
  · exact built.relabel rfl (by decide) nofun
  · exact built.relabel rfl (by decide) nofun
  · exact built

theorem built_map_asCondition
    {nodes : List Node}
    (built : ∀ node ∈ nodes, Built numeral node) :
    ∀ node ∈ nodes.map asCondition, Built numeral node := by
  intro node member
  obtain ⟨original, originalMember, rfl⟩ := List.mem_map.1 member
  exact built_asCondition (built original originalMember)

theorem built_asVector
    {node : Node}
    (built : Built numeral node) :
    Built numeral node.asVector := by
  unfold asVector
  split
  · exact built.relabel rfl (by decide) nofun
  · exact built

/-- Kinds that take any number of children may be appended to. -/
theorem built_chainOnto
    {kind : Kind} {left right : Node}
    (takes : ∀ count, kind.takes count = true)
    (notNumber : kind ≠ .number)
    (leftBuilt : Built numeral left)
    (rightBuilt : Built numeral right) :
    Built numeral (chainOnto kind left right) := by
  unfold chainOnto
  split
  · apply built_plain (takes _) notNumber
    intro child member
    rcases List.mem_append.1 member with earlier | last
    · exact leftBuilt.children child earlier
    · rw [List.mem_singleton.1 last]
      exact rightBuilt
  · exact built_pair (takes 2) notNumber leftBuilt rightBuilt

end Node

/-! ## Trees of derivations -/

/-- The nodes in the meaning of a symbol are built, and the text of a number is a numeral. -/
abbrev Symbol.Built (numeral : String → Prop) : (symbol : Symbol) → symbol.Meaning → Prop :=
  Symbol.Each (fun read text => read = .number → numeral text) (Node.Built numeral)

open Node in
/-- The action of every production builds on the nodes of its parts. -/
theorem Production.action_built
    {numeral : String → Prop} (production : Production) (parts : Meanings production.rhs)
    (built : Meanings.All (Symbol.Built numeral) production.rhs parts) :
    Symbol.Built numeral (.nonterminal production.lhs)
      (production.action .compact parts) := by
  have nullBuilt : Built numeral (plain .null []) := built_plain rfl nofun (by simp)
  cases production
  case statementOfPrint | statementOfPrintln | statementOfVar | statementOfFn | statementOfAssign |
      statementOfIf | statementOfWhile | statementOfFor | statementOfReturn | statementOfExpr |
      elseBlock | elseIf | exprOfOr | orOfAnd | andOfNot | notOfCmp | cmpOfSum | sumOfTerm |
      termOfUnary | unaryOfAtom =>
    exact built.1
  case atomParens => exact built.2.1
  case program => exact built_plain rfl nofun built.1
  case blockStatements | atomVector => exact built_plain rfl nofun built.2.1
  case printArgs | printlnArgs => exact built_plain rfl nofun built.2.2.1
  case programEmpty | printEmpty | printlnEmpty | returnEmpty | blockEmpty | atomTrue |
      atomFalse | atomVectorEmpty =>
    exact built_plain rfl nofun (by simp)
  case varManyInit =>
    obtain ⟨_, _, _, _, initialBuilt, _⟩ := built
    exact built_declareVars _ (List.forall_mem_singleton.2 initialBuilt)
  case varOneInit =>
    obtain ⟨_, _, _, initialBuilt, _⟩ := built
    exact built_declareVars _ (List.forall_mem_singleton.2 initialBuilt)
  case varMany | varOne => exact built_declareVars _ (by simp)
  case fnParams =>
    obtain ⟨_, _, _, paramsBuilt, _, bodyBuilt, _⟩ := built
    exact built_declareFn _ paramsBuilt bodyBuilt
  case fnNoParams =>
    obtain ⟨_, _, _, _, bodyBuilt, _⟩ := built
    exact built_declareFn _ (by simp) bodyBuilt
  case paramsMany => exact built_references (_ :: _)
  case paramsOne => exact List.forall_mem_singleton.2 (built_reference _)
  case assign =>
    obtain ⟨_, _, exprBuilt, _⟩ := built
    exact built_pair rfl nofun (built_reference _) exprBuilt
  case ifElse =>
    obtain ⟨_, _, conditionBuilt, _, bodyBuilt, _, otherBuilt, _⟩ := built
    have headBuilt := built_asCondition conditionBuilt
    exact built_triple rfl nofun headBuilt bodyBuilt otherBuilt
  case ifOnly =>
    obtain ⟨_, _, conditionBuilt, _, bodyBuilt, _⟩ := built
    have headBuilt := built_asCondition conditionBuilt
    exact built_triple rfl nofun headBuilt bodyBuilt nullBuilt
  case whileMany =>
    obtain ⟨_, _, conditionBuilt, conditionsBuilt, _, bodyBuilt, _⟩ := built
    have headsBuilt :=
      built_map_asCondition (List.forall_mem_cons.2 ⟨conditionBuilt, conditionsBuilt⟩)
    have listBuilt : Built numeral (plain .conditionList (List.map asCondition _)) :=
      built_plain rfl nofun headsBuilt
    exact built_pair rfl nofun listBuilt bodyBuilt
  case whileOne =>
    obtain ⟨_, _, conditionBuilt, _, bodyBuilt, _⟩ := built
    have headBuilt := built_asCondition conditionBuilt
    exact built_pair rfl nofun headBuilt bodyBuilt
  case forIn =>
    obtain ⟨_, _, _, sourceBuilt, bodyBuilt, _⟩ := built
    have vectorBuilt := built_asVector sourceBuilt
    exact built_triple rfl nofun (built_reference _) vectorBuilt bodyBuilt
  case returnExpr =>
    exact built_plain rfl nofun (List.forall_mem_singleton.2 built.2.1)
  case argsMany =>
    exact List.forall_mem_cons.2 ⟨built.1, built.2.1⟩
  case argsOne | statementsOne => exact List.forall_mem_singleton.2 built.1
  case moreExprsOne => exact List.forall_mem_singleton.2 built.2.1
  case statementsMore =>
    obtain ⟨earlierBuilt, lastBuilt, _⟩ := built
    exact List.forall_mem_append.2 ⟨earlierBuilt, List.forall_mem_singleton.2 lastBuilt⟩
  case moreExprsMore =>
    obtain ⟨earlierBuilt, _, lastBuilt, _⟩ := built
    exact List.forall_mem_append.2 ⟨earlierBuilt, List.forall_mem_singleton.2 lastBuilt⟩
  case orChain | andChain =>
    obtain ⟨leftBuilt, _, rightBuilt, _⟩ := built
    exact built_chainOnto (fun _ => rfl) nofun
      (built_asCondition leftBuilt) (built_asCondition rightBuilt)
  case notBang =>
    have operandBuilt := built_asCondition built.2.1
    exact built_plain rfl nofun (List.forall_mem_singleton.2 operandBuilt)
  case cmpRelation =>
    obtain ⟨leftBuilt, _, rightBuilt, _⟩ := built
    exact built_compareWith _ leftBuilt rightBuilt
  case cmpIn =>
    obtain ⟨leftBuilt, _, rightBuilt, _⟩ := built
    have vectorBuilt := built_asVector rightBuilt
    exact built_pair rfl nofun leftBuilt vectorBuilt
  case cmpNotIn =>
    obtain ⟨leftBuilt, _, _, rightBuilt, _⟩ := built
    have vectorBuilt := built_asVector rightBuilt
    exact built_pair rfl nofun leftBuilt vectorBuilt
  case sumPlus =>
    obtain ⟨leftBuilt, _, rightBuilt, _⟩ := built
    exact built_chainOnto (fun _ => rfl) nofun leftBuilt rightBuilt
  case sumMinus =>
    obtain ⟨leftBuilt, _, rightBuilt, _⟩ := built
    have negatedBuilt : Built numeral (plain .neg [_]) :=
      built_plain rfl nofun (List.forall_mem_singleton.2 rightBuilt)
    exact built_chainOnto (fun _ => rfl) nofun leftBuilt negatedBuilt
  case termTimes | termDivide | termModulo =>
    obtain ⟨leftBuilt, _, rightBuilt, _⟩ := built
    exact built_pair rfl nofun leftBuilt rightBuilt
  case unaryMinus | unaryPlus =>
    exact built_plain rfl nofun (List.forall_mem_singleton.2 built.2.1)
  case atomNumber => exact built_named_number (built.1 rfl)
  case atomString => exact built_of_takes rfl nofun nofun (by simp)
  case atomCall =>
    obtain ⟨_, _, argsBuilt, _⟩ := built
    exact built_call _ argsBuilt
  case atomCallEmpty => exact built_call _ (by simp)
  case atomName => exact built_reference _
  case moreNamesOne | moreNamesMore => trivial

theorem Derivation.lower_built
    {numeral : String → Prop} (derivation : ProgramDerivation)
    (numbers : ∀ lexeme ∈ derivation.lexemes, lexeme.1 = .number → numeral lexeme.2) :
    Node.Built numeral (derivation.lower .compact) :=
  derivation.lower_holds
    (fun _ _ isNumeral => isNumeral)
    (fun production parts built => production.action_built parts built)
    numbers

/-- The tree of a derivation is regular for the numbers among its lexemes. -/
theorem Derivation.lower_regular
    {numeral : String → Prop} (derivation : ProgramDerivation)
    (numbers : ∀ lexeme ∈ derivation.lexemes, lexeme.1 = .number → numeral lexeme.2) :
    Node.Regular numeral (derivation.lower .compact) :=
  (derivation.lower_built numbers).regular

end Scriptlet
