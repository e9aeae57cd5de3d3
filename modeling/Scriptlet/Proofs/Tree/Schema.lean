import Scriptlet.Proofs.Parsing.Soundness

/-!
# The schema of trees

What every node of a parsed program looks like: how many children its kind has, which kinds may
stand where, and what its payload is spelled like. The action of every production keeps to this
schema, so the tree of every accepted text does.
-/

namespace Scriptlet

/-! ## The schema -/

/-- A payload that is a text matched by a terminal. -/
def Payload.Matches (terminal : Terminal) (payload : Option Payload) : Prop :=
  ∃ text, payload = some (.scalar (.text text)) ∧ text.toList ∈ terminal.pattern

/-- A node that may stand where a truth value is expected: neither a reference nor a call, unless
it is marked as a condition. -/
def Node.Marked (node : Node) : Prop :=
  ∀ bare ∈ [Kind.idNum, Kind.fnCall], node.kind? ≠ some bare

/-- The operands of a chain: two at least, and the first one is no chain of the same kind. -/
def Kind.Chains (kind : Kind) (operands : List Node) : Prop :=
  2 ≤ operands.length ∧ ∀ first, operands.head? = some first → first.kind? ≠ some kind

/-- What the schema asks of the children and the payload of a node, by its kind. -/
def Kind.Rule : Kind → List Node → Option Payload → Prop
  | .comparison, children, payload =>
      ∃ relation,
        payload = some (.relation relation) ∧
          children[1]? = some (Node.plain (.marker relation) [])
  | .conditional, children, _ =>
      ∃ condition body alternative,
        children = [condition, body, alternative] ∧ condition.Marked ∧
          body.kind? = some .clause ∧
          alternative.kind? ∈ [some .clause, some .conditional, some .null]
  | .whileLoop, children, _ => ∀ first, children.head? = some first → first.Marked
  | .sum, children, _ => Kind.sum.Chains children
  | .disjunction, children, _ =>
      Kind.disjunction.Chains children ∧ ∀ child ∈ children, child.Marked
  | .conjunction, children, _ =>
      Kind.conjunction.Chains children ∧ ∀ child ∈ children, child.Marked
  | .inversion, children, _ | .conditionList, children, _ => ∀ child ∈ children, child.Marked
  | .isIn, children, _ | .notIn, children, _ | .forLoop, children, _ =>
      ∀ second, children[1]? = some second → second.kind? ≠ some .idNum
  | .number, _, payload => Payload.Matches .number payload
  | .string, _, payload => Payload.Matches .string payload
  | .idNum, _, payload | .idBool, _, payload | .idVec, _, payload | .fnDecl, _, payload
  | .fnCall, _, payload | .booleanCall, _, payload => Payload.Matches .ident payload
  | _, _, _ => True

/-- What the schema asks of one node. -/
structure Kind.Admits
    (kind : Kind) (children : List Node) (payload : Option Payload) : Prop where
  built :
    Node.build (.kind kind) children payload = .ok (.branch (.kind kind) children payload)
  /-- The null node stands only where a conditional leaves its alternative out. -/
  sentinel :
    ∀ place child, children[place]? = some child → child.kind? = some .null →
      kind = .conditional ∧ place = 2
  rule : kind.Rule children payload

namespace Node

/-- A property that holds of a node and of every node below it. -/
inductive Everywhere (holds : Node → Prop) : Node → Prop
  | intro {node : Node} :
      holds node → (∀ child ∈ node.children, Everywhere holds child) → Everywhere holds node

/-- A node of a known kind that has what the schema asks of it. -/
def Admissible : Node → Prop
  | .branch (.kind kind) children payload => kind.Admits children payload
  | _ => False

def Conforms : Node → Prop :=
  Everywhere Admissible

theorem Everywhere.mono
    {holds weaker : Node → Prop} {node : Node}
    (implies : ∀ node, holds node → weaker node)
    (everywhere : Everywhere holds node) :
    Everywhere weaker node := by
  induction everywhere with
  | intro here _ inductionHypothesis => exact .intro (implies _ here) inductionHypothesis

/-! ## Building nodes that conform -/

/-- A tree that conforms and is not the null node, so that it may stand anywhere. -/
def Placeable (node : Node) : Prop :=
  node.Conforms ∧ node.kind? ≠ some .null

theorem conforms_branch
    {kind : Kind} {children : List Node} {payload : Option Payload}
    (childrenConform : ∀ child ∈ children, child.Conforms)
    (admits : kind.Admits children payload) :
    Conforms (.branch (.kind kind) children payload) :=
  .intro admits childrenConform

/-- Among children that may stand anywhere there is no null node to look after. -/
theorem conforms_of_placeable
    {kind : Kind} {children : List Node} {payload : Option Payload}
    (childrenPlaceable : ∀ child ∈ children, child.Placeable)
    (built :
      Node.build (.kind kind) children payload = .ok (.branch (.kind kind) children payload))
    (rule : kind.Rule children payload) :
    Conforms (.branch (.kind kind) children payload) := by
  refine conforms_branch (fun child member => (childrenPlaceable child member).1) ⟨built, ?_, rule⟩
  intro place child found isNull
  have member : child ∈ children := List.mem_of_getElem? found
  exact absurd isNull (childrenPlaceable child member).2

theorem placeable_branch
    {kind : Kind} {children : List Node} {payload : Option Payload}
    (notNull : kind ≠ .null)
    (childrenPlaceable : ∀ child ∈ children, child.Placeable)
    (built :
      Node.build (.kind kind) children payload = .ok (.branch (.kind kind) children payload))
    (rule : kind.Rule children payload) :
    Placeable (.branch (.kind kind) children payload) := by
  refine ⟨conforms_of_placeable childrenPlaceable built rule, ?_⟩
  intro isNull
  exact notNull (Option.some.inj isNull)

theorem placeable_leaf
    {kind : Kind} {payload : Option Payload}
    (notNull : kind ≠ .null)
    (built : Node.build (.kind kind) [] payload = .ok (.branch (.kind kind) [] payload))
    (rule : kind.Rule [] payload) :
    Placeable (.branch (.kind kind) [] payload) :=
  placeable_branch notNull (List.forall_mem_nil _) built rule

theorem placeable_pair
    {kind : Kind} {first second : Node} {payload : Option Payload}
    (notNull : kind ≠ .null)
    (firstPlaceable : first.Placeable)
    (secondPlaceable : second.Placeable)
    (built :
      Node.build (.kind kind) [first, second] payload =
        .ok (.branch (.kind kind) [first, second] payload))
    (rule : kind.Rule [first, second] payload) :
    Placeable (.branch (.kind kind) [first, second] payload) :=
  placeable_branch notNull (by simp [firstPlaceable, secondPlaceable]) built rule

theorem placeable_triple
    {kind : Kind} {first second third : Node} {payload : Option Payload}
    (notNull : kind ≠ .null)
    (firstPlaceable : first.Placeable)
    (secondPlaceable : second.Placeable)
    (thirdPlaceable : third.Placeable)
    (built :
      Node.build (.kind kind) [first, second, third] payload =
        .ok (.branch (.kind kind) [first, second, third] payload))
    (rule : kind.Rule [first, second, third] payload) :
    Placeable (.branch (.kind kind) [first, second, third] payload) :=
  placeable_branch notNull (by simp [firstPlaceable, secondPlaceable, thirdPlaceable]) built rule

theorem placeable_reference
    {name : String}
    (fits : Lexeme.Fits (.ident, name)) :
    Placeable (reference name) :=
  placeable_leaf (by decide) rfl ⟨name, rfl, fits⟩

theorem placeable_references
    {names : List String}
    (fits : ∀ name ∈ names, Lexeme.Fits (.ident, name)) :
    ∀ node ∈ names.map reference, node.Placeable := by
  intro node member
  obtain ⟨name, nameMember, rfl⟩ := List.mem_map.1 member
  exact placeable_reference (fits name nameMember)

theorem placeable_declareVars
    {names : List String} {initial : List Node}
    (fits : ∀ name ∈ names, Lexeme.Fits (.ident, name))
    (initialPlaceable : ∀ node ∈ initial, node.Placeable) :
    Placeable (declareVars names initial) := by
  have listPlaceable : Placeable (plain .identList (names.map reference)) :=
    placeable_branch (by decide) (placeable_references fits) rfl trivial
  have childrenPlaceable := List.forall_mem_cons.2 ⟨listPlaceable, initialPlaceable⟩
  exact placeable_branch (by decide) childrenPlaceable rfl trivial

theorem placeable_declareFn
    {name : String} {params : List Node} {body : Node}
    (fits : Lexeme.Fits (.ident, name))
    (paramsPlaceable : ∀ node ∈ params, node.Placeable)
    (bodyPlaceable : body.Placeable) :
    Placeable (declareFn name params body) := by
  have listPlaceable : Placeable (plain .identList params) :=
    placeable_branch (by decide) paramsPlaceable rfl trivial
  exact placeable_pair (by decide) listPlaceable bodyPlaceable rfl ⟨name, rfl, fits⟩

theorem placeable_call
    {name : String} {args : List Node}
    (fits : Lexeme.Fits (.ident, name))
    (argsPlaceable : ∀ node ∈ args, node.Placeable) :
    Placeable (call name args) := by
  have listPlaceable : Placeable (plain .expList args) :=
    placeable_branch (by decide) argsPlaceable rfl trivial
  have childrenPlaceable := List.forall_mem_singleton.2 listPlaceable
  exact placeable_branch (by decide) childrenPlaceable rfl ⟨name, rfl, fits⟩

theorem placeable_compareWith
    {left right : Node} {operator : String}
    (fits : Lexeme.Fits (.relation, operator))
    (leftPlaceable : left.Placeable)
    (rightPlaceable : right.Placeable) :
    Placeable (compareWith left operator right) := by
  obtain ⟨relation, read⟩ := exists_ofSymbol?_eq_some fits
  have markerPlaceable : Placeable (plain (.marker relation) []) := by
    cases relation <;> exact placeable_leaf (by decide) rfl trivial
  simp only [compareWith, read]
  exact
    placeable_triple (by decide) leftPlaceable markerPlaceable rightPlaceable rfl
      ⟨relation, rfl, rfl⟩

/-! ## Marking and chaining -/

theorem Placeable.admits
    {kind : Kind} {children : List Node} {payload : Option Payload}
    (placeable : Placeable (.branch (.kind kind) children payload)) :
    kind.Admits children payload := by
  cases placeable.1 with
  | intro admits _ => exact admits

/-- Only a conditional has a null node among its children. -/
theorem Placeable.children
    {kind : Kind} {children : List Node} {payload : Option Payload}
    (placeable : Placeable (.branch (.kind kind) children payload))
    (notConditional : kind ≠ .conditional) :
    ∀ child ∈ children, child.Placeable := by
  have sentinel := placeable.admits.sentinel
  intro child member
  cases placeable.1 with
  | intro _ childrenConform =>
      refine ⟨childrenConform child member, ?_⟩
      intro isNull
      obtain ⟨place, found⟩ := List.mem_iff_getElem?.1 member
      exact notConditional (sentinel place child found isNull).1

theorem marked_of_kind?
    {node : Node} {kind : Kind}
    (known : node.kind? = some kind)
    (notReference : kind ≠ .idNum)
    (notCall : kind ≠ .fnCall) :
    node.Marked := by
  intro bare member isBare
  rw [known] at isBare
  cases isBare
  simp only [List.mem_cons, List.not_mem_nil, or_false] at member
  rcases member with isReference | isCall
  · exact notReference isReference
  · exact notCall isCall

theorem placeable_asCondition
    {node : Node}
    (placeable : node.Placeable) :
    node.asCondition.Placeable ∧ node.asCondition.Marked := by
  unfold asCondition
  split
  · next children payload =>
      have named := placeable.admits.rule
      have childrenPlaceable := placeable.children (by decide)
      constructor
      · exact placeable_branch (by decide) childrenPlaceable rfl named
      · exact marked_of_kind? rfl (by decide) (by decide)
  · next children payload =>
      have named := placeable.admits.rule
      have childrenPlaceable := placeable.children (by decide)
      constructor
      · exact placeable_branch (by decide) childrenPlaceable rfl named
      · exact marked_of_kind? rfl (by decide) (by decide)
  · next notReference notCall =>
      refine ⟨placeable, ?_⟩
      intro bare member isBare
      cases node with
      | stray content => cases isBare
      | branch label children payload =>
          cases label with
          | other name => cases isBare
          | kind kind =>
              cases isBare
              simp only [List.mem_cons, List.not_mem_nil, or_false] at member
              rcases member with rfl | rfl
              · exact notReference children payload rfl
              · exact notCall children payload rfl

theorem placeable_asVector
    {node : Node}
    (placeable : node.Placeable) :
    node.asVector.Placeable ∧ node.asVector.kind? ≠ some .idNum := by
  unfold asVector
  split
  · next children payload =>
      have named := placeable.admits.rule
      have childrenPlaceable := placeable.children (by decide)
      constructor
      · exact placeable_branch (by decide) childrenPlaceable rfl named
      · simp [kind?]
  · next notReference =>
      refine ⟨placeable, ?_⟩
      intro isReference
      cases node with
      | stray content => cases isReference
      | branch label children payload =>
          cases label with
          | other name => cases isReference
          | kind kind =>
              cases isReference
              exact notReference children payload rfl

theorem rule_chain_iff
    {kind : Kind} {children : List Node} {payload : Option Payload}
    (chaining : kind ∈ [.sum, .disjunction, .conjunction]) :
    kind.Rule children payload ↔
      kind.Chains children ∧ (kind ≠ .sum → ∀ child ∈ children, child.Marked) := by
  simp only [List.mem_cons, List.not_mem_nil, or_false] at chaining
  rcases chaining with rfl | rfl | rfl <;> simp [Kind.Rule]

theorem placeable_chain
    {kind : Kind} {children : List Node}
    (chaining : kind ∈ [.sum, .disjunction, .conjunction])
    (childrenPlaceable : ∀ child ∈ children, child.Placeable)
    (chains : kind.Chains children)
    (marked : kind ≠ .sum → ∀ child ∈ children, child.Marked) :
    Placeable (plain kind children) := by
  have rule : kind.Rule children none := (rule_chain_iff chaining).2 ⟨chains, marked⟩
  simp only [List.mem_cons, List.not_mem_nil, or_false] at chaining
  rcases chaining with rfl | rfl | rfl <;>
    exact placeable_branch (by decide) childrenPlaceable rfl rule

/-- Appending to a chain keeps to the schema: the first operand stays first, and the chain only
gets longer. -/
theorem placeable_chainOnto
    {kind : Kind} {left right : Node}
    (chaining : kind ∈ [.sum, .disjunction, .conjunction])
    (leftPlaceable : left.Placeable)
    (rightPlaceable : right.Placeable)
    (leftMarked : kind ≠ .sum → left.Marked)
    (rightMarked : kind ≠ .sum → right.Marked) :
    Placeable (chainOnto kind left right) := by
  have notConditional : kind ≠ .conditional := by
    rintro rfl
    exact absurd chaining (by decide)
  unfold chainOnto
  split
  · next sameKind =>
      cases left with
      | stray content => cases sameKind
      | branch label operands payload =>
          cases label with
          | other name => cases sameKind
          | kind found =>
              cases sameKind
              obtain ⟨⟨several, firstDiffers⟩, operandsMarked⟩ :=
                (rule_chain_iff chaining).1 leftPlaceable.admits.rule
              have operandsPlaceable := leftPlaceable.children notConditional
              have nonempty : operands ≠ [] := List.length_pos_iff.1 (by omega)
              change Placeable (plain kind (operands ++ [right]))
              apply placeable_chain chaining
              · exact List.forall_mem_append.2
                  ⟨operandsPlaceable, List.forall_mem_singleton.2 rightPlaceable⟩
              · constructor
                · simp only [List.length_append, List.length_singleton]
                  omega
                · intro first isFirst
                  rw [List.head?_append_of_ne_nil _ nonempty] at isFirst
                  exact firstDiffers first isFirst
              · intro notSum
                exact List.forall_mem_append.2
                  ⟨operandsMarked notSum, List.forall_mem_singleton.2 (rightMarked notSum)⟩
  · next differentKind =>
      apply placeable_chain chaining
      · simp [leftPlaceable, rightPlaceable]
      · refine ⟨Nat.le_refl 2, ?_⟩
        intro first isFirst
        cases isFirst
        exact differentKind
      · intro notSum
        have both := And.intro (leftMarked notSum) (rightMarked notSum)
        simpa using both

theorem conforms_null : Conforms (plain .null []) :=
  conforms_of_placeable (List.forall_mem_nil _) rfl trivial

/-- A conditional may have the null node in place of its alternative, and nowhere else. -/
theorem placeable_conditional
    {condition body alternative : Node}
    (conditionPlaceable : condition.Placeable)
    (conditionMarked : condition.Marked)
    (bodyPlaceable : body.Placeable)
    (isClause : body.kind? = some .clause)
    (alternativeConforms : alternative.Conforms)
    (alternativeKind : alternative.kind? ∈ [some .clause, some .conditional, some .null]) :
    Placeable (plain .conditional [condition, body, alternative]) := by
  refine ⟨conforms_branch ?_ ?_, by simp [kind?, plain]⟩
  · simp [conditionPlaceable.1, bodyPlaceable.1, alternativeConforms]
  · refine ⟨rfl, ?_, _, _, _, rfl, conditionMarked, isClause, alternativeKind⟩
    intro place child found isNull
    match place with
    | 0 =>
        cases found
        exact absurd isNull conditionPlaceable.2
    | 1 =>
        cases found
        exact absurd isNull bodyPlaceable.2
    | 2 => exact ⟨rfl, rfl⟩
    | beyond + 3 => simp at found

theorem placeable_while
    {condition body : Node}
    (conditionPlaceable : condition.Placeable)
    (conditionMarked : condition.Marked)
    (bodyPlaceable : body.Placeable) :
    Placeable (plain .whileLoop [condition, body]) := by
  refine placeable_pair (by decide) conditionPlaceable bodyPlaceable rfl ?_
  intro first isFirst
  cases isFirst
  exact conditionMarked

theorem second_ne
    {first second : Node} {more : List Node}
    (marked : second.kind? ≠ some .idNum) :
    ∀ child, (first :: second :: more)[1]? = some child → child.kind? ≠ some .idNum := by
  simpa using marked

theorem placeable_conditionList
    {conditions : List Node}
    (conditionsPlaceable : ∀ condition ∈ conditions, condition.Placeable) :
    Placeable (plain .conditionList (conditions.map asCondition)) := by
  have marked :
      ∀ child ∈ conditions.map asCondition,
        child.Placeable ∧ child.Marked := by
    intro child member
    obtain ⟨condition, conditionMember, rfl⟩ := List.mem_map.1 member
    exact placeable_asCondition (conditionsPlaceable condition conditionMember)
  exact placeable_branch (by decide) (fun child member => (marked child member).1) rfl
    fun child member => (marked child member).2

end Node

/-! ## Trees of derivations -/

open Node in
/-- What the schema says about the meaning of each symbol. -/
def Symbol.Conforms : (symbol : Symbol) → symbol.Meaning → Prop
  | .terminal read, text => Lexeme.Fits (read, text)
  | .nonterminal .moreNames, names => ∀ name ∈ names, Lexeme.Fits (.ident, name)
  | .nonterminal .params, nodes | .nonterminal .args, nodes | .nonterminal .statements, nodes
  | .nonterminal .moreExprs, nodes => ∀ node ∈ nodes, Placeable node
  | .nonterminal .program, node => Placeable node ∧ node.kind? = some .body
  | .nonterminal .block, node => Placeable node ∧ node.kind? = some .clause
  | .nonterminal .ifElse, node => Placeable node ∧ node.kind? = some .conditional
  | .nonterminal .elseBranch, node =>
      Placeable node ∧ node.kind? ∈ [some .clause, some .conditional]
  | .nonterminal .statement, node | .nonterminal .printing, node
  | .nonterminal .printingLine, node | .nonterminal .varDecl, node | .nonterminal .fnDecl, node
  | .nonterminal .assign, node | .nonterminal .whileLoop, node | .nonterminal .forLoop, node
  | .nonterminal .returning, node | .nonterminal .expr, node | .nonterminal .orExpr, node
  | .nonterminal .andExpr, node | .nonterminal .notExpr, node | .nonterminal .cmpExpr, node
  | .nonterminal .sumExpr, node | .nonterminal .term, node | .nonterminal .unary, node
  | .nonterminal .atom, node => Placeable node

open Node in
theorem Production.action_conforms
    (production : Production) (parts : Meanings production.rhs)
    (conform : Meanings.All Symbol.Conforms production.rhs parts) :
    Symbol.Conforms (.nonterminal production.lhs) (production.action .compact parts) := by
  cases production
  case statementOfPrint | statementOfPrintln | statementOfVar | statementOfFn | statementOfAssign |
      statementOfWhile | statementOfFor | statementOfReturn | statementOfExpr | exprOfOr | orOfAnd |
      andOfNot | notOfCmp | cmpOfSum | sumOfTerm | termOfUnary | unaryOfAtom =>
    exact conform.1
  case statementOfIf => exact conform.1.1
  case atomParens => exact conform.2.1
  case elseBlock =>
    obtain ⟨⟨blockPlaceable, isClause⟩, _⟩ := conform
    exact ⟨blockPlaceable, List.mem_cons.2 (.inl isClause)⟩
  case elseIf =>
    obtain ⟨⟨statementPlaceable, isConditional⟩, _⟩ := conform
    exact ⟨statementPlaceable, List.mem_cons_of_mem _ (List.mem_singleton.2 isConditional)⟩
  case program =>
    exact ⟨placeable_branch (by decide) conform.1 rfl trivial, rfl⟩
  case programEmpty =>
    exact ⟨placeable_leaf (by decide) rfl trivial, rfl⟩
  case blockStatements =>
    exact ⟨placeable_branch (by decide) conform.2.1 rfl trivial, rfl⟩
  case blockEmpty =>
    exact ⟨placeable_leaf (by decide) rfl trivial, rfl⟩
  case atomVector => exact placeable_branch (by decide) conform.2.1 rfl trivial
  case printArgs | printlnArgs =>
    exact placeable_branch (by decide) conform.2.2.1 rfl trivial
  case printEmpty | printlnEmpty | returnEmpty | atomTrue | atomFalse | atomVectorEmpty =>
    exact placeable_leaf (by decide) rfl trivial
  case returnExpr =>
    have childPlaceable := List.forall_mem_singleton.2 conform.2.1
    exact placeable_branch (by decide) childPlaceable rfl trivial
  case varManyInit =>
    obtain ⟨_, nameFits, namesFit, _, initialPlaceable, _⟩ := conform
    exact placeable_declareVars (List.forall_mem_cons.2 ⟨nameFits, namesFit⟩)
      (List.forall_mem_singleton.2 initialPlaceable)
  case varMany =>
    obtain ⟨_, nameFits, namesFit, _⟩ := conform
    exact placeable_declareVars (List.forall_mem_cons.2 ⟨nameFits, namesFit⟩)
      (List.forall_mem_nil _)
  case varOneInit =>
    obtain ⟨_, nameFits, _, initialPlaceable, _⟩ := conform
    exact placeable_declareVars (List.forall_mem_singleton.2 nameFits)
      (List.forall_mem_singleton.2 initialPlaceable)
  case varOne =>
    obtain ⟨_, nameFits, _⟩ := conform
    exact placeable_declareVars (List.forall_mem_singleton.2 nameFits) (List.forall_mem_nil _)
  case fnParams =>
    obtain ⟨_, nameFits, _, paramsPlaceable, _, ⟨bodyPlaceable, _⟩, _⟩ := conform
    exact placeable_declareFn nameFits paramsPlaceable bodyPlaceable
  case fnNoParams =>
    obtain ⟨_, nameFits, _, _, ⟨bodyPlaceable, _⟩, _⟩ := conform
    exact placeable_declareFn nameFits (List.forall_mem_nil _) bodyPlaceable
  case paramsMany =>
    obtain ⟨nameFits, namesFit, _⟩ := conform
    exact placeable_references (List.forall_mem_cons.2 ⟨nameFits, namesFit⟩)
  case paramsOne =>
    exact List.forall_mem_singleton.2 (placeable_reference conform.1)
  case assign =>
    obtain ⟨nameFits, _, exprPlaceable, _⟩ := conform
    have namePlaceable := placeable_reference nameFits
    exact placeable_pair (by decide) namePlaceable exprPlaceable rfl trivial
  case ifElse =>
    obtain ⟨_, _, conditionPlaceable, _, ⟨bodyPlaceable, isClause⟩, _,
      ⟨otherPlaceable, otherKind⟩, _⟩ := conform
    obtain ⟨headPlaceable, headMarked⟩ := placeable_asCondition conditionPlaceable
    have amongThree := List.mem_append_left [some .null] otherKind
    exact
      ⟨placeable_conditional headPlaceable headMarked bodyPlaceable isClause otherPlaceable.1
        amongThree, rfl⟩
  case ifOnly =>
    obtain ⟨_, _, conditionPlaceable, _, ⟨bodyPlaceable, isClause⟩, _⟩ := conform
    obtain ⟨headPlaceable, headMarked⟩ := placeable_asCondition conditionPlaceable
    have amongThree : (plain .null []).kind? ∈ [some .clause, some .conditional, some .null] := by
      simp [kind?, plain]
    exact
      ⟨placeable_conditional headPlaceable headMarked bodyPlaceable isClause conforms_null
        amongThree, rfl⟩
  case whileMany =>
    obtain ⟨_, _, conditionPlaceable, conditionsPlaceable, _, ⟨bodyPlaceable, _⟩, _⟩ := conform
    have listPlaceable :=
      placeable_conditionList (List.forall_mem_cons.2 ⟨conditionPlaceable, conditionsPlaceable⟩)
    have listMarked (conditions : List Node) : (plain .conditionList conditions).Marked :=
      marked_of_kind? rfl (by decide) (by decide)
    exact placeable_while listPlaceable (listMarked _) bodyPlaceable
  case whileOne =>
    obtain ⟨_, _, conditionPlaceable, _, ⟨bodyPlaceable, _⟩, _⟩ := conform
    obtain ⟨headPlaceable, headMarked⟩ := placeable_asCondition conditionPlaceable
    exact placeable_while headPlaceable headMarked bodyPlaceable
  case forIn =>
    obtain ⟨_, nameFits, _, sourcePlaceable, ⟨bodyPlaceable, _⟩, _⟩ := conform
    have namePlaceable := placeable_reference nameFits
    obtain ⟨vectorPlaceable, vectorMarked⟩ := placeable_asVector sourcePlaceable
    exact
      placeable_triple (by decide) namePlaceable vectorPlaceable bodyPlaceable rfl
        (second_ne vectorMarked)
  case argsMany => exact List.forall_mem_cons.2 ⟨conform.1, conform.2.1⟩
  case argsOne | statementsOne => exact List.forall_mem_singleton.2 conform.1
  case moreExprsOne | moreNamesOne => exact List.forall_mem_singleton.2 conform.2.1
  case statementsMore =>
    obtain ⟨earlierPlaceable, lastPlaceable, _⟩ := conform
    exact List.forall_mem_append.2
      ⟨earlierPlaceable, List.forall_mem_singleton.2 lastPlaceable⟩
  case moreExprsMore | moreNamesMore =>
    obtain ⟨earlier, _, last, _⟩ := conform
    exact List.forall_mem_append.2 ⟨earlier, List.forall_mem_singleton.2 last⟩
  case orChain | andChain =>
    obtain ⟨leftPlaceable, _, rightPlaceable, _⟩ := conform
    obtain ⟨firstPlaceable, firstMarked⟩ := placeable_asCondition leftPlaceable
    obtain ⟨secondPlaceable, secondMarked⟩ := placeable_asCondition rightPlaceable
    exact placeable_chainOnto (by simp) firstPlaceable secondPlaceable (fun _ => firstMarked)
      (fun _ => secondMarked)
  case notBang =>
    obtain ⟨operandPlaceable, operandMarked⟩ := placeable_asCondition conform.2.1
    have childrenPlaceable := List.forall_mem_singleton.2 operandPlaceable
    exact placeable_branch (by decide) childrenPlaceable rfl
      (List.forall_mem_singleton.2 operandMarked)
  case cmpRelation =>
    obtain ⟨leftPlaceable, operatorFits, rightPlaceable, _⟩ := conform
    exact placeable_compareWith operatorFits leftPlaceable rightPlaceable
  case cmpIn =>
    obtain ⟨leftPlaceable, _, rightPlaceable, _⟩ := conform
    obtain ⟨vectorPlaceable, vectorMarked⟩ := placeable_asVector rightPlaceable
    exact placeable_pair (by decide) leftPlaceable vectorPlaceable rfl (second_ne vectorMarked)
  case cmpNotIn =>
    obtain ⟨leftPlaceable, _, _, rightPlaceable, _⟩ := conform
    obtain ⟨vectorPlaceable, vectorMarked⟩ := placeable_asVector rightPlaceable
    exact placeable_pair (by decide) leftPlaceable vectorPlaceable rfl (second_ne vectorMarked)
  case sumPlus =>
    obtain ⟨leftPlaceable, _, rightPlaceable, _⟩ := conform
    exact placeable_chainOnto (by simp) leftPlaceable rightPlaceable (absurd rfl) (absurd rfl)
  case sumMinus =>
    obtain ⟨leftPlaceable, _, rightPlaceable, _⟩ := conform
    have negatedPlaceable : Placeable (plain .neg [_]) :=
      placeable_branch (by decide) (List.forall_mem_singleton.2 rightPlaceable) rfl trivial
    exact placeable_chainOnto (by simp) leftPlaceable negatedPlaceable (absurd rfl) (absurd rfl)
  case termTimes | termDivide | termModulo =>
    obtain ⟨leftPlaceable, _, rightPlaceable, _⟩ := conform
    exact placeable_pair (by decide) leftPlaceable rightPlaceable rfl trivial
  case unaryMinus | unaryPlus =>
    have operandPlaceable := List.forall_mem_singleton.2 conform.2.1
    exact placeable_branch (by decide) operandPlaceable rfl trivial
  case atomNumber =>
    exact placeable_leaf (by decide) rfl ⟨_, rfl, conform.1⟩
  case atomString =>
    exact placeable_leaf (by decide) rfl ⟨_, rfl, conform.1⟩
  case atomCall =>
    obtain ⟨nameFits, _, argsPlaceable, _⟩ := conform
    exact placeable_call nameFits argsPlaceable
  case atomCallEmpty => exact placeable_call conform.1 (List.forall_mem_nil _)
  case atomName => exact placeable_reference conform.1

/-- The tree of a derivation keeps to the schema if its lexemes are full matches. -/
theorem Derivation.lower_conforms
    (derivation : ProgramDerivation)
    (fits : ∀ lexeme ∈ derivation.lexemes, lexeme.Fits) :
    (derivation.lower .compact).Conforms ∧ (derivation.lower .compact).kind? = some .body := by
  have conform : Symbol.Conforms (.nonterminal .program) (derivation.lower .compact) :=
    derivation.lower_holds (fun _ _ fit => fit) Production.action_conforms fits
  exact ⟨conform.1.1, conform.2⟩

namespace Program

/-- The root of an accepted text's tree is a body, and every node of it keeps to the schema. -/
theorem tree_conforms
    {source : String} {tree : Node}
    (accepted : Program.tree source = .ok tree) :
    tree.kind? = some .body ∧ tree.Conforms := by
  unfold Program.tree at accepted
  split at accepted
  · next parsed succeeded =>
      cases accepted
      have fits := Parsed.fits_of_ofText_eq_ok succeeded
      obtain ⟨conforms, isBody⟩ := parsed.derivation.lower_conforms fits
      exact ⟨isBody, conforms⟩
  · cases accepted

/-- A text with a chain of sums, conditions that are references and calls, and an `else if`. -/
theorem tree_conforms_of_conditional :
    ∃ (source : String) (tree : Node),
      source = "if (a && f(1 - 2 + 3)) \x7bx = \"b\";\x7d else if (!c) \x7b\x7d" ∧
        tree =
          .plain .body
            [.plain .conditional
              [.plain .conjunction
                [.named .idBool "a",
                  .branch (.kind .booleanCall)
                    [.plain .expList
                      [.plain .sum
                        [.named .number "1", .plain .neg [.named .number "2"],
                          .named .number "3"]]]
                    (some (.scalar (.text "f")))],
                .plain .clause [.plain .assign [.named .idNum "x", .named .string "\"b\""]],
                .plain .conditional
                  [.plain .inversion [.named .idBool "c"], .plain .clause [],
                    .plain .null []]]] ∧
        Program.tree source = .ok tree ∧
        tree.kind? = some .body ∧
        tree.Conforms := by
  refine ⟨_, _, rfl, rfl, ?accepted, tree_conforms ?accepted⟩
  decide +kernel

end Program

end Scriptlet
