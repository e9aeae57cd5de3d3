import Mathlib.Logic.Function.Iterate
import Scriptlet.Proofs.Console.Sessions
import Scriptlet.Proofs.Text.Words

/-!
# Switches of a session

Each switch of the console obeys the orders that its own command gives and nothing else: a word for
on or off sets it, no word turns it over. Programs, other commands, and words that mean nothing
leave it as it is, so its position is known from the orders since the last one that set it.
-/

namespace Scriptlet

namespace Switch

/-! ## Orders -/

/-- What a line asks of a switch. -/
inductive Order where
  | set (on : Bool)
  | turnOver
  deriving DecidableEq, Repr

namespace Order

/-- The position that an order asks for whatever the position was. -/
def position? : Order → Option Bool
  | set on => some on
  | turnOver => none

def apply (current : Bool) : Order → Bool
  | set on => on
  | turnOver => !current

/-- The order that the words behind a command stand for. -/
def ofWords? : List (List Char) → Option Order
  | [] => some turnOver
  | [word] =>
      if lowerCase (String.ofList word) ∈ onWords then some (set true)
      else if lowerCase (String.ofList word) ∈ offWords then some (set false)
      else none
  | _ => none

/-- The order that a line gives to the switch of a command: its first word is the command. -/
def ofLine? (command : Line.Command) (line : String) : Option Order :=
  match Text.words line.toList with
  | [] => none
  | first :: others => if first = command.word.toList then ofWords? others else none

/-- Where orders leave a switch: in the position that the last one to name a position asked for, or
else in the first position, turned over once for every later order. -/
def settled (initially : Bool) (orders : List Order) : Bool :=
  let recent := orders.reverse
  let later := recent.takeWhile (·.position? = none)
  not^[later.length] ((recent.findSome? position?).getD initially)

theorem settled_append_singleton (initially : Bool) (orders : List Order) (order : Order) :
    settled initially (orders ++ [order]) = order.apply (settled initially orders) := by
  cases order with
  | set on => simp [settled, List.findSome?_cons, position?, apply]
  | turnOver =>
      simp [settled, List.findSome?_cons, position?, apply, Function.iterate_succ_apply']

/-- Orders that are obeyed one by one leave the switch where they should. -/
theorem foldl_apply (initially : Bool) (orders : List Order) :
    orders.foldl apply initially = settled initially orders := by
  induction orders using List.reverseRecOn with
  | nil => rfl
  | append_singleton orders order inductionHypothesis =>
      rw [List.foldl_append, inductionHypothesis, settled_append_singleton]
      rfl

end Order

/-! ## Words for positions -/

theorem isBlank_eq_false_of_mem_word
    {word : String} {c : Char}
    (among : word ∈ onWords ++ offWords)
    (member : c ∈ word.toList) :
    Text.isBlank c = false := by
  have solid : ∀ word ∈ onWords ++ offWords, ∀ c ∈ word.toList, Text.isBlank c = false := by
    simp [onWords, offWords, Text.isBlank]
  exact solid word among c member

theorem toLower_of_isBlank
    {c : Char}
    (blank : Text.isBlank c = true) :
    c.toLower = c := by
  refine dif_neg fun upper => ?_
  have least : 65 ≤ c.toNat := upper.1
  have greatest : c.toNat ≤ 90 := upper.2
  simp only [Text.isBlank, Bool.or_eq_true, Bool.and_eq_true, decide_eq_true_eq,
    beq_iff_eq] at blank
  omega

theorem lowerCase_eq_empty_iff {text : String} : lowerCase text = "" ↔ text = "" := by
  simp [lowerCase]

/-- A text with a blank is no word for a position, in whatever letters. -/
theorem lowerCase_notMem_of_blank
    {text : String} {c : Char}
    (member : c ∈ text.toList)
    (blank : Text.isBlank c = true) :
    lowerCase text ∉ onWords ++ offWords := by
  intro among
  have lowered : c ∈ (lowerCase text).toList := by
    rw [lowerCase, String.toList_ofList]
    exact List.mem_map.2 ⟨c, member, toLower_of_isBlank blank⟩
  rw [isBlank_eq_false_of_mem_word among lowered] at blank
  cases blank

/-- An argument without blanks at its ends does what its words order. With a blank inside it is more
than one word and means nothing. -/
theorem toggle_eq_map_apply
    {argument : String}
    (tight : Text.Tight argument.toList) (current : Bool) :
    toggle argument current =
      (Order.ofWords? (Text.words argument.toList)).map (Order.apply current) := by
  by_cases empty : argument = ""
  · subst empty
    rfl
  · have given : lowerCase argument ≠ "" := mt lowerCase_eq_empty_iff.1 empty
    by_cases solid : ∀ c ∈ argument.toList, Text.isBlank c = false
    · have nonempty : argument.toList ≠ [] := mt String.toList_eq_nil_iff.1 empty
      rw [Text.words_of_solid nonempty solid, Order.ofWords?, String.ofList_toList]
      by_cases on : lowerCase argument ∈ onWords
      · simp [toggle, on, Order.apply]
      · by_cases off : lowerCase argument ∈ offWords
        · simp [toggle, on, off, Order.apply]
        · simp [toggle, on, off, given]
    · simp only [not_forall, Bool.not_eq_false] at solid
      obtain ⟨c, member, blank⟩ := solid
      have several := tight.two_le_length_words member blank
      have meaningless := lowerCase_notMem_of_blank member blank
      rw [List.mem_append, not_or] at meaningless
      have noOrder : Order.ofWords? (Text.words argument.toList) = none := by
        unfold Order.ofWords?
        split
        · next noWord =>
            rw [noWord] at several
            cases several
        · next oneWord =>
            rw [oneWord] at several
            exact absurd several (by simp)
        · rfl
      simp [toggle, meaningless, given, noOrder]

end Switch

/-! ## Lines -/

namespace Line.Command

theorem ofWord?_eq_some_iff {text : String} {command : Line.Command} :
    ofWord? text = some command ↔ text = command.word := by
  constructor
  · intro found
    unfold ofWord? at found
    have same := List.find?_some found
    exact (beq_iff_eq.1 same).symm
  · rintro rfl
    cases command <;> decide

theorem head?_word (command : Line.Command) : command.word.toList.head? = some '/' := by
  cases command <;> decide

end Line.Command

/-- The order of a line is read off the first word of the trimmed line and what follows it. -/
theorem Switch.Order.ofLine?_eq (command : Line.Command) (line : String) :
    ofLine? command line =
      if Line.Command.ofWord? (Text.partWord (Text.trim line)).1 = some command then
        ofWords? (Text.words (Text.partWord (Text.trim line)).2.toList)
      else
        none := by
  by_cases empty : Text.trim line = ""
  · have noWords : Text.words line.toList = [] := by
      rw [← Text.words_trimBoth, ← String.toList_ofList (l := Text.trimBoth _ _), ← Text.trim,
        empty]
      rfl
    rw [ofLine?, noWords, empty]
    rfl
  · rw [ofLine?, Text.words_eq_partWord empty]
    simp only [Line.Command.ofWord?_eq_some_iff, String.toList_inj]

namespace Console

/-! ## Steps -/

/-- A step of a console: a line that may be a command, or a program. -/
inductive Step where
  | line (text : String)
  | submission (text : String)
  deriving DecidableEq, Repr

/-- The order that a step gives to the switch of a command. Programs give none. -/
def Step.order? (command : Line.Command) : Step → Option Switch.Order
  | .line text => Switch.Order.ofLine? command text
  | .submission _ => none

/-- The console after a step, and what the step shows. -/
def take (console : Console) : Step → Console × Presentation
  | .line text =>
      match console.command? text with
      | some (next, transcript) => (next, ⟨transcript, .done⟩)
      | none => (console, ⟨.empty, .done⟩)
  | .submission text => (console, console.submit text)

/-- A line changes the console only by the command that is its first word. -/
theorem fst_take_line (console : Console) (line : String) :
    (console.take (.line line)).1 =
      match Line.Command.ofWord? (Text.partWord (Text.trim line)).1 with
      | some command => (console.perform (Text.partWord (Text.trim line)).2 command).1
      | none => console := by
  unfold take command?
  dsimp only
  by_cases slash : (Text.trim line).toList.head? = some '/'
  · rw [if_pos slash]
    cases Line.Command.ofWord? (Text.partWord (Text.trim line)).1 <;> rfl
  · rw [if_neg slash]
    cases found : Line.Command.ofWord? (Text.partWord (Text.trim line)).1 with
    | none => rfl
    | some command =>
        have starts := command.head?_word
        rw [← Line.Command.ofWord?_eq_some_iff.1 found, Text.partWord, String.toList_ofList,
          List.head?_takeWhile] at starts
        exact absurd (Option.filter_eq_some_iff.1 starts).1 slash

/-- What a step does to the console: each switch obeys the order that the step gives to it. -/
theorem fst_take (console : Console) (step : Step) :
    (console.take step).1 =
      { showTree :=
          match step.order? .tree with
          | some order => order.apply console.showTree
          | none => console.showTree
        tracing :=
          match step.order? .traceback with
          | some order => .ofPosition (order.apply console.tracing.isOn)
          | none => console.tracing } := by
  cases step with
  | submission text => rfl
  | line text =>
      rw [fst_take_line]
      simp only [Step.order?, Switch.Order.ofLine?_eq]
      cases found : Line.Command.ofWord? (Text.partWord (Text.trim text)).1 with
      | none => rfl
      | some command =>
          have toggled := Switch.toggle_eq_map_apply (Text.tight_snd_partWord text)
          cases command with
          | clear => rfl
          | traceback | tree =>
              -- The other switch gets no order, since the first word is only one command.
              cases ordered :
                  Switch.Order.ofWords? (Text.words (Text.partWord (Text.trim text)).2.toList) <;>
                simp [perform, toggled, ordered]

/-! ## Runs -/

/-- The console after steps in a row. -/
def takeAll (console : Console) (steps : List Step) : Console :=
  steps.foldl (fun console step => (console.take step).1) console

/-- A position of the console that every step changes as it orders is settled by the orders of the
steps. -/
theorem takeAll_eq_settled
    (position : Console → Bool) {order? : Step → Option Switch.Order}
    (obeys : ∀ console step,
      position (console.take step).1 =
        match order? step with
        | some order => order.apply (position console)
        | none => position console)
    (console : Console) (steps : List Step) :
    position (console.takeAll steps) =
      Switch.Order.settled (position console) (steps.filterMap order?) := by
  rw [← Switch.Order.foldl_apply]
  induction steps generalizing console with
  | nil => rfl
  | cons step steps inductionHypothesis =>
      -- The rest starts where the step leaves the console, so `obeys` is read at its start.
      have later := inductionHypothesis (console.take step).1
      rw [obeys] at later
      cases ordered : order? step with
      | none =>
          rw [ordered] at later
          rw [List.filterMap_cons_none ordered]
          exact later
      | some order =>
          rw [ordered] at later
          rw [List.filterMap_cons_some ordered]
          exact later

theorem isOn_ofPosition (on : Bool) : (Switch.Setting.ofPosition on).isOn = on := by
  cases on <;> decide

theorem showTree_takeAll (console : Console) (steps : List Step) :
    (console.takeAll steps).showTree =
      Switch.Order.settled console.showTree (steps.filterMap (Step.order? .tree)) := by
  refine takeAll_eq_settled showTree (fun console step => ?_) console steps
  rw [fst_take]

/-- The setting is written as a text and read back in the next turn. -/
theorem isOn_takeAll (console : Console) (steps : List Step) :
    (console.takeAll steps).tracing.isOn =
      Switch.Order.settled console.tracing.isOn
        (steps.filterMap (Step.order? .traceback)) := by
  refine takeAll_eq_settled (·.tracing.isOn) (fun console step => ?_) console steps
  rw [fst_take]
  cases step.order? .traceback with
  | none => rfl
  | some order => exact isOn_ofPosition _

/-! ## Sessions -/

/-- The step that the console takes on an entered text. -/
def Step.ofEntered (entered : String) : Step :=
  match programOf? entered with
  | some program => .submission program
  | none => .line (Line.visible entered)

/-- A turn is the step that its text stands for; for a blank text that is a line that does
nothing. -/
theorem turn_eq_take (console : Console) (entered : String) :
    console.turn entered = console.take (Step.ofEntered entered) := by
  unfold Step.ofEntered
  cases found : programOf? entered with
  | some program => exact console.turn_of_program found
  | none =>
      rcases trim_visible_of_no_program found with empty | slash
      · have noCommand : console.command? (Line.visible entered) = none :=
          command?_eq_none_iff.2 (by simp [empty])
        simp [turn, take, empty, noCommand]
      · have nonempty : Text.trim (Line.visible entered) ≠ "" := by
          intro empty
          rw [empty] at slash
          cases slash
        cases performed : console.command? (Line.visible entered) with
        | none => exact absurd slash (command?_eq_none_iff.1 performed)
        | some performance => simp [turn, take, nonempty, performed]

def Prompted.step? : Prompted → Option Step
  | .text entered => some (Step.ofEntered entered)
  | .interrupt | .endOfInput => none

/-- A session that goes on has taken every step that its prompts yielded. -/
theorem eq_takeAll_of_serve
    {console next : Console} {results : List Prompted}
    (goesOn : (console.serve results).2 = .awaiting next) :
    next = console.takeAll (results.filterMap Prompted.step?) := by
  induction results generalizing console with
  | nil => exact (Standing.awaiting.inj goesOn).symm
  | cons result results inductionHypothesis =>
      cases result with
      | endOfInput => cases goesOn
      | interrupt => exact inductionHypothesis goesOn
      | text entered =>
          rw [serve, turn_eq_take] at goesOn
          dsimp only at goesOn
          split at goesOn
          · cases goesOn
          · exact inductionHypothesis goesOn

/-- Each switch changes only by an order of its own command. So the tree is shown as the last order
to name a position says, or else not, turned over by every later order, and the frames of a failure
are shown by the same law from the setting that the session finds. -/
theorem switches_follow_orders (tracing : Switch.Setting) (steps : List Step) :
    (∀ console step,
        (Step.order? .tree step = none → (take console step).1.showTree = console.showTree) ∧
          (Step.order? .traceback step = none →
            (take console step).1.tracing = console.tracing)) ∧
      ((start tracing).takeAll steps).showTree =
        Switch.Order.settled false (steps.filterMap (Step.order? .tree)) ∧
      ((start tracing).takeAll steps).tracing.isOn =
        Switch.Order.settled tracing.isOn (steps.filterMap (Step.order? .traceback)) ∧
      ∀ results next,
        ((start tracing).serve results).2 = .awaiting next →
          next = (start tracing).takeAll (results.filterMap Prompted.step?) := by
  refine ⟨fun console step => ⟨fun unordered => ?_, fun unordered => ?_⟩, ?_, ?_, ?_⟩
  · rw [fst_take, unordered]
  · rw [fst_take, unordered]
  · exact (start tracing).showTree_takeAll steps
  · exact (start tracing).isOn_takeAll steps
  · intro results next goesOn
    exact eq_takeAll_of_serve goesOn

/-- A session that finds the frames asked for. A word that means nothing and a zero divisor stand
between its orders. -/
theorem switches_follow_orders_of_session :
    (Step.order? .tree (.line "/tree maybe") = none ∧
        (take ⟨true, none⟩ (.line "/tree maybe")).1.showTree = true) ∧
      (Step.order? .traceback (.submission "1 / 0;") = none ∧
        (take ⟨true, some " Yes"⟩ (.submission "1 / 0;")).1.tracing = some " Yes") ∧
      ((start (some " Yes")).takeAll
          [.line " /tree\tON ", .line "/tree maybe", .submission "1 / 0;", .line "/tree",
            .line "/py-traceback"]).showTree = false ∧
      ((start (some " Yes")).takeAll
          [.line " /tree\tON ", .line "/tree maybe", .submission "1 / 0;", .line "/tree",
            .line "/py-traceback"]).tracing.isOn = false ∧
      ((start (some " Yes")).serve [.text "/tree", .interrupt, .text "1 / 0;"]).2 =
          .awaiting ⟨true, some " Yes"⟩ ∧
        ⟨true, some " Yes"⟩ =
          (start (some " Yes")).takeAll [.line "/tree", .submission "1 / 0;"] := by
  obtain ⟨unchanged, tree, frames, session⟩ :=
    switches_follow_orders (some " Yes")
      [.line " /tree\tON ", .line "/tree maybe", .submission "1 / 0;", .line "/tree",
        .line "/py-traceback"]
  have served :
      ((start (some " Yes")).serve [.text "/tree", .interrupt, .text "1 / 0;"]).2 =
        .awaiting ⟨true, some " Yes"⟩ := by
    decide +kernel
  exact
    ⟨⟨by decide, (unchanged ⟨true, none⟩ _).1 (by decide)⟩,
      ⟨rfl, (unchanged ⟨true, some " Yes"⟩ _).2 rfl⟩,
      tree.trans (by decide), frames.trans (by decide),
      served, session _ _ served⟩

end Console

end Scriptlet
