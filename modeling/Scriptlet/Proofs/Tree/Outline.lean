import Scriptlet.Program
import Scriptlet.Proofs.Tree.Headings
import Scriptlet.Proofs.Tree.Regular

/-!
# Outlines determine trees

An outline is the headings of a tree's nodes, in reading order. Each heading can be read back with
its depth, and the depths give back the nesting: the children of a node are the headings below it
that stand one level deeper, up to the next one that does not stand deeper than the node. The tree
of every accepted text can be listed in this way.
-/

namespace Scriptlet

namespace Node

/-- A tree whose nodes all have a known kind and a payload that such nodes carry. -/
inductive Listable : Node → Prop
  | branch {kind : Kind} {children : List Node} {payload : Option Payload} :
      kind.Carries payload →
      (∀ child ∈ children, Listable child) →
      Listable (.branch (.kind kind) children payload)

/-! ## Headings of trees -/

mutual

/-- The headings of a tree whose root stands at a depth, in reading order. -/
def headings (depth : Nat) : Node → List Heading
  | branch (.kind kind) children payload =>
      ⟨depth, kind, payload⟩ :: headingsAll (depth + 1) children
  | _ => []

def headingsAll (depth : Nat) : List Node → List Heading
  | [] => []
  | first :: rest => headings depth first ++ headingsAll depth rest

end

theorem exists_of_mem_headingsAll
    {heading : Heading} {nodes : List Node} {depth : Nat}
    (member : heading ∈ headingsAll depth nodes) :
    ∃ node ∈ nodes, heading ∈ node.headings depth := by
  induction nodes with
  | nil => cases member
  | cons first rest inductionHypothesis =>
      rcases List.mem_append.1 member with inFirst | inRest
      · exact ⟨first, List.mem_cons_self, inFirst⟩
      · obtain ⟨node, nodeMember, inNode⟩ := inductionHypothesis inRest
        exact ⟨node, List.mem_cons_of_mem _ nodeMember, inNode⟩

theorem Listable.carries_of_mem_headings
    {node : Node} {heading : Heading} {depth : Nat}
    (listable : node.Listable)
    (member : heading ∈ node.headings depth) :
    heading.kind.Carries heading.payload := by
  induction listable generalizing depth with
  | branch carries _ inductionHypothesis =>
      rw [headings] at member
      rcases List.mem_cons.1 member with rfl | below
      · exact carries
      · obtain ⟨child, childMember, inChild⟩ := exists_of_mem_headingsAll below
        exact inductionHypothesis child childMember inChild

/-- The text of headings, line by line. -/
def spelled (headings : List Heading) : String :=
  String.ofList (headings.flatMap Heading.line)

theorem spelled_append (headings more : List Heading) :
    spelled (headings ++ more) = spelled headings ++ spelled more := by
  rw [spelled, List.flatMap_append, String.ofList_append, ← spelled, ← spelled]

/-- What an outline makes of headings: their text, unless one of them cannot be written. -/
def listed (headings : List Heading) : Except ListingFault String :=
  if headings.all Heading.isWritable then .ok (spelled headings) else .error .unwritable

theorem listed_eq_ok_iff {headings : List Heading} {text : String} :
    listed headings = .ok text ↔
      headings.all Heading.isWritable = true ∧ spelled headings = text := by
  rw [listed]
  cases headings.all Heading.isWritable with
  | false => simp
  | true => simp

theorem listed_append (headings more : List Heading) :
    listed (headings ++ more) = do
      let above ← listed headings
      let below ← listed more
      return above ++ below := by
  rw [listed, listed, listed, List.all_append]
  cases headings.all Heading.isWritable with
  | false => rfl
  | true =>
      cases more.all Heading.isWritable with
      | false => rfl
      | true =>
          rw [spelled_append]
          rfl

theorem outlineLine_eq (depth : Nat) (kind : Kind) (payload : Option Payload) :
    outlineLine (String.ofList (Heading.margin depth)) kind payload =
      listed [⟨depth, kind, payload⟩] := by
  cases payload with
  | none =>
      refine congrArg Except.ok (String.toList_injective ?_)
      simp [spelled, Heading.line, Heading.body, Heading.appendix]
  | some carried =>
      rw [outlineLine, Payload.written, listed, List.all_cons, List.all_nil, Bool.and_true,
        Heading.isWritable]
      cases Payload.isWritable (some carried) with
      | false => rfl
      | true =>
          refine congrArg Except.ok (String.toList_injective ?_)
          simp [spelled, Heading.line, Heading.body, Heading.appendix]

theorem margin_append_indent (depth : Nat) :
    String.ofList (Heading.margin depth) ++ defaultIndent =
      String.ofList (Heading.margin (depth + 1)) := by
  have twoMore : Heading.margin depth ++ [' ', ' '] = Heading.margin (depth + 1) := by
    rw [Heading.margin, Heading.margin, Nat.mul_succ, List.replicate_add]
    rfl
  rw [← twoMore, String.ofList_append]
  rfl

theorem outlineAll_eq
    {nodes : List Node} {depth : Nat}
    (each :
      ∀ node ∈ nodes,
        outlineFrom defaultIndent (String.ofList (Heading.margin depth)) node =
          listed (node.headings depth)) :
    outlineAll defaultIndent (String.ofList (Heading.margin depth)) nodes =
      listed (headingsAll depth nodes) := by
  induction nodes with
  | nil => rfl
  | cons first rest inductionHypothesis =>
      obtain ⟨firstOutlined, restOutlined⟩ := List.forall_mem_cons.1 each
      rw [outlineAll, firstOutlined, inductionHypothesis restOutlined, headingsAll, listed_append]

/-- The outline of a listable tree consists of its headings. -/
theorem outlineFrom_eq
    {node : Node}
    (listable : node.Listable) (depth : Nat) :
    outlineFrom defaultIndent (String.ofList (Heading.margin depth)) node =
      listed (node.headings depth) := by
  induction listable generalizing depth with
  | @branch kind children payload _ _ inductionHypothesis =>
      have below :=
        outlineAll_eq fun child member => inductionHypothesis child member (depth + 1)
      rw [outlineFrom, margin_append_indent, below, outlineLine_eq, ← listed_append,
        List.singleton_append, headings]

theorem outline_eq
    {node : Node}
    (listable : node.Listable) :
    node.outline defaultIndent = listed (node.headings 0) := by
  have outlined := outlineFrom_eq listable 0
  cases listable with
  | branch _ _ => exact outlined

/-! ## Nesting -/

/-- The headings do not start with one that stands deeper. -/
def Shallow (depth : Nat) (headings : List Heading) : Prop :=
  ∀ heading ∈ headings.head?, heading.depth ≤ depth

theorem shallow_nil (depth : Nat) : Shallow depth [] := by
  intro heading first
  cases first

theorem shallow_headingsAll_append
    {nodes : List Node} {depth : Nat} {rest : List Heading}
    (listable : ∀ node ∈ nodes, node.Listable)
    (shallow : Shallow depth rest) :
    Shallow (depth + 1) (headingsAll (depth + 1) nodes ++ rest) := by
  cases nodes with
  | nil => exact fun heading first => Nat.le_succ_of_le (shallow heading first)
  | cons first others =>
      cases listable first List.mem_cons_self with
      | branch _ _ =>
          rintro heading ⟨⟩
          exact Nat.le_refl _

theorem not_shallow_headingsAll_cons
    {first : Node} {others : List Node} {depth : Nat} {rest : List Heading}
    (listable : first.Listable) :
    ¬ Shallow depth (headingsAll (depth + 1) (first :: others) ++ rest) := by
  intro shallow
  cases listable with
  | branch _ _ => exact absurd (shallow _ rfl) (Nat.not_succ_le_self depth)

/-- The headings of the tree give it back, at whatever depth its root stands and whatever follows
that is not deeper than the root. -/
def Recoverable (tree : Node) : Prop :=
  ∀ (other : Node) (depth : Nat) (rest more : List Heading),
    other.Listable → Shallow depth rest → Shallow depth more →
      tree.headings depth ++ rest = other.headings depth ++ more → tree = other ∧ rest = more

/-- The headings of several trees give them back if what follows does not stand as deep as they do.
The two lists are taken apart together: as long as both have a first tree, its headings give it
back. -/
theorem headingsAll_append_inj
    {lefts rights : List Node} {depth : Nat} {rest more : List Heading}
    (recoverable : ∀ left ∈ lefts, left.Recoverable)
    (leftsListable : ∀ left ∈ lefts, left.Listable)
    (rightsListable : ∀ right ∈ rights, right.Listable)
    (restShallow : Shallow depth rest)
    (moreShallow : Shallow depth more)
    (same : headingsAll (depth + 1) lefts ++ rest = headingsAll (depth + 1) rights ++ more) :
    lefts = rights ∧ rest = more := by
  induction lefts generalizing rights with
  | nil =>
      cases rights with
      | nil => exact ⟨rfl, same⟩
      | cons right rights =>
          -- A first tree on one side only would stand too deep for what follows on the other.
          rw [headingsAll, List.nil_append] at same
          rw [same] at restShallow
          exact absurd restShallow
            (not_shallow_headingsAll_cons (rightsListable right List.mem_cons_self))
  | cons left lefts inductionHypothesis =>
      cases rights with
      | nil =>
          rw [headingsAll.eq_def _ [], List.nil_append] at same
          rw [← same] at moreShallow
          exact absurd moreShallow
            (not_shallow_headingsAll_cons (leftsListable left List.mem_cons_self))
      | cons right rights =>
          obtain ⟨leftRecoverable, recoverable⟩ := List.forall_mem_cons.1 recoverable
          obtain ⟨_, leftsListable⟩ := List.forall_mem_cons.1 leftsListable
          obtain ⟨rightListable, rightsListable⟩ := List.forall_mem_cons.1 rightsListable
          rw [headingsAll, headingsAll, List.append_assoc, List.append_assoc] at same
          obtain ⟨sameFirst, sameRest⟩ :=
            leftRecoverable right _ _ _ rightListable
              (shallow_headingsAll_append leftsListable restShallow)
              (shallow_headingsAll_append rightsListable moreShallow) same
          obtain ⟨sameOthers, sameEnd⟩ :=
            inductionHypothesis recoverable leftsListable rightsListable sameRest
          exact ⟨by rw [sameFirst, sameOthers], sameEnd⟩

theorem Listable.recoverable
    {node : Node}
    (listable : node.Listable) :
    node.Recoverable := by
  induction listable with
  | @branch kind children payload _ childrenListable inductionHypothesis =>
      intro other depth rest more otherListable restShallow moreShallow same
      cases otherListable with
      | @branch otherKind otherChildren otherPayload _ otherChildrenListable =>
          rw [headings, headings, List.cons_append, List.cons_append] at same
          obtain ⟨sameHeading, sameBelow⟩ := List.cons.inj same
          obtain ⟨sameChildren, sameRest⟩ :=
            headingsAll_append_inj inductionHypothesis childrenListable otherChildrenListable
              restShallow moreShallow sameBelow
          cases sameHeading
          exact ⟨by rw [sameChildren], sameRest⟩

/-- Whether no integer in a tree has too many digits to be written. -/
def isWritable (tree : Node) : Bool :=
  (tree.headings 0).all Heading.isWritable

theorem Listable.exists_outline_iff
    {tree : Node}
    (listable : tree.Listable) :
    (∃ text, tree.outline defaultIndent = .ok text) ↔ tree.isWritable = true := by
  simp only [outline_eq listable, listed_eq_ok_iff, exists_and_left, exists_eq', and_true]
  rfl

/-- The text gives back the headings, and the headings give back the tree. -/
theorem Listable.eq_of_outline_eq
    {left right : Node} {text : String}
    (leftListable : left.Listable)
    (rightListable : right.Listable)
    (leftOutlined : left.outline defaultIndent = .ok text)
    (rightOutlined : right.outline defaultIndent = .ok text) :
    left = right := by
  rw [outline_eq leftListable, listed_eq_ok_iff] at leftOutlined
  rw [outline_eq rightListable, listed_eq_ok_iff] at rightOutlined
  have sameText :
      (left.headings 0).flatMap Heading.line = (right.headings 0).flatMap Heading.line :=
    String.ofList_injective (leftOutlined.2.trans rightOutlined.2.symm)
  have nonempty (heading : Heading) : heading.line ≠ [] :=
    List.append_ne_nil_of_right_ne_nil _ (List.cons_ne_nil _ _)
  have sameHeadings : left.headings 0 = right.headings 0 :=
    Text.flatMap_inj_of_prefixFree nonempty
      (fun _ _ _ _ leftCarries rightCarries => Heading.line_append_inj leftCarries rightCarries)
      (fun _ => leftListable.carries_of_mem_headings)
      (fun _ => rightListable.carries_of_mem_headings) sameText
  have sameAll : left.headings 0 ++ [] = right.headings 0 ++ [] := by rw [sameHeadings]
  have ends := shallow_nil 0
  exact (leftListable.recoverable right 0 [] [] rightListable ends ends sameAll).1

end Node

/-! ## Trees of programs -/

theorem Node.Built.listable
    {numeral : String → Prop} {node : Node}
    (built : node.Built numeral) :
    node.Listable := by
  induction built with
  | branch _ bears _ _ inductionHypothesis => exact .branch bears.carries inductionHypothesis

theorem Node.Built.isWritable_of_mem_headings
    {numeral : String → Prop} {node : Node} {heading : Heading} {depth : Nat}
    (built : node.Built numeral)
    (member : heading ∈ node.headings depth) :
    heading.isWritable = true := by
  induction built generalizing depth with
  | branch _ bears _ _ inductionHypothesis =>
      rw [headings] at member
      rcases List.mem_cons.1 member with rfl | below
      · exact bears.isWritable
      · obtain ⟨child, childMember, inChild⟩ := exists_of_mem_headingsAll below
        exact inductionHypothesis child childMember inChild

/-- The tree of an accepted text can be listed and written. -/
theorem Program.tree_listable
    {source : String} {tree : Node}
    (accepted : Program.tree source = .ok tree) :
    tree.Listable ∧ tree.isWritable = true := by
  unfold Program.tree at accepted
  split at accepted
  · next parsed _ =>
      cases accepted
      have built : Node.Built (fun _ => True) (parsed.tree .compact) :=
        parsed.derivation.lower_built fun _ _ _ => trivial
      exact ⟨built.listable, List.all_eq_true.2 fun _ => built.isWritable_of_mem_headings⟩
  · cases accepted

/-- Every accepted text has a listable tree that can be written, a listable tree has an outline
exactly if it can be written, and trees with the same outline are the same tree. -/
theorem Node.outline_determines :
    (∀ source tree, Program.tree source = .ok tree →
        tree.Listable ∧ tree.isWritable = true) ∧
      (∀ tree : Node, tree.Listable →
        ((∃ text, tree.outline defaultIndent = .ok text) ↔ tree.isWritable = true)) ∧
      ∀ (left right : Node) (text : String),
        left.Listable → right.Listable → left.outline defaultIndent = .ok text →
          right.outline defaultIndent = .ok text → left = right := by
  refine ⟨fun _ _ => Program.tree_listable, fun _ listable => listable.exists_outline_iff, ?_⟩
  intro left right text leftListable rightListable leftOutlined rightOutlined
  exact leftListable.eq_of_outline_eq rightListable leftOutlined rightOutlined

/-- A parsed tree is known from its outline, which escapes one of the two quotes in a text. -/
theorem Node.outline_determines_parsed :
    ∃ (tree : Node) (text : String),
      text = "body\n  print\n    string\t'\"it\\'s\"'\n" ∧
        Program.tree "print(\"it's\");" = .ok tree ∧
        tree.outline defaultIndent = .ok text ∧
        tree = plain .body [plain .print [named .string "\"it's\""]] := by
  have outlines :
      (Program.tree "print(\"it's\");").toOption.map (·.outline defaultIndent) =
        some (.ok "body\n  print\n    string\t'\"it\\'s\"'\n") := by
    decide +kernel
  have expected :
      (plain .body [plain .print [named .string "\"it's\""]]).outline defaultIndent =
        .ok "body\n  print\n    string\t'\"it\\'s\"'\n" := by
    decide +kernel
  have expectedListable : (plain .body [plain .print [named .string "\"it's\""]]).Listable := by
    have literal : (named .string "\"it's\"").Listable :=
      .branch (by simp [Kind.Carries]) (List.forall_mem_nil _)
    have printing : (plain .print [named .string "\"it's\""]).Listable :=
      .branch trivial (List.forall_mem_singleton.2 literal)
    exact .branch trivial (List.forall_mem_singleton.2 printing)
  cases accepted : Program.tree "print(\"it's\");" with
  | error error =>
      rw [accepted] at outlines
      cases outlines
  | ok tree =>
      rw [accepted] at outlines
      have outlined :
          tree.outline defaultIndent = .ok "body\n  print\n    string\t'\"it\\'s\"'\n" :=
        Option.some.inj outlines
      have parsedListable := (outline_determines.1 _ tree accepted).1
      refine ⟨tree, _, rfl, rfl, outlined, ?_⟩
      exact outline_determines.2.2 tree _ _ parsedListable expectedListable outlined expected

end Scriptlet
