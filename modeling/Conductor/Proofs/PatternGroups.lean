import Conductor.Pattern.Reader
import Conductor.Proofs.PatternSpans

/-! How the groups of a pattern are numbered. The reader gives each group the next number when it
opens, and loses none: at every point the groups that it holds and those that are still open are
numbered from one up to the number of groups so far, each number once.
-/

namespace Conductor.Pattern

-----------------------------------------------------------------------------------------
-- Numbers of groups
-----------------------------------------------------------------------------------------

namespace Node

/-- The numbers of the groups within a pattern. -/
def numbers (node : Node) : List Nat :=
  node.groups.map Prod.fst

theorem numbers_ofList (nodes : List Node) : (ofList nodes).numbers = nodes.flatMap numbers := by
  fun_induction ofList nodes with
  | case1 => rfl
  | case2 node => simp
  | case3 node rest _ ih =>
      simp only [numbers] at ih
      simp [numbers, groups, ih]

theorem numbers_ofAlternatives (nodes : List Node)
    : (ofAlternatives nodes).numbers = nodes.flatMap numbers := by
  fun_induction ofAlternatives nodes with
  | case1 => rfl
  | case2 node => simp
  | case3 node rest _ ih =>
      simp only [numbers] at ih
      simp [numbers, groups, ih]

/-- A repetition has the groups of its body. -/
theorem numbers_repeated (body : Node) (min : Nat) (max : Option Nat) (greed : Greed)
    : (body.repeated min max greed).numbers = body.numbers := by
  unfold repeated
  split <;> rfl

end Node

/-- The number of the group that is opened, if it is one that captures. -/
def Opening.numbers : Opening → List Nat
  | .capture index => [index]
  | _ => []

namespace Level

/-- The numbers of the groups in the elements of the current alternative. -/
def itemNumbers (level : Level) : List Nat :=
  level.items.flatMap fun item => item.node.numbers

/-- The numbers of the groups in all that has been read of a level. -/
def held (level : Level) : List Nat :=
  level.itemNumbers ++ level.alternatives.flatMap Node.numbers

/-- The numbers of the groups in a level, with that of the level itself. -/
def numbers (level : Level) : List Nat :=
  level.opening.numbers ++ level.held

theorem sequence_numbers (level : Level) : level.sequence.numbers.Perm level.itemNumbers := by
  rw [sequence, Node.numbers_ofList, List.flatMap_map]
  exact (List.reverse_perm level.items).flatMap_right _

theorem body_numbers (level : Level) : level.body.numbers.Perm level.held := by
  have alternatives := (List.reverse_perm (level.sequence :: level.alternatives)).flatMap_right
    Node.numbers
  rw [body, Node.numbers_ofAlternatives]
  exact alternatives.trans (level.sequence_numbers.append_right _)

end Level

/-- The numbers of the groups that a reader holds or has opened. -/
def ReaderState.numbers (state : ReaderState) : List Nat :=
  (state.level :: state.outer).flatMap Level.numbers

/-- The groups of a reader are numbered from one on. A condition has at most one alternative behind
it, since no more than two can be added to what is around it; and the outermost level is no group.
-/
structure ReaderState.Numbered (state : ReaderState) : Prop where
  numbers : state.numbers.Perm (List.range' 1 state.groupCount)
  conditions
    : ∀ level ∈ state.level :: state.outer,
        ∀ index, level.opening = .ifGroup index → level.alternatives.length ≤ 1
  outermost : (state.outer.getLastD state.level).opening = .plain

theorem ReaderState.Numbered.start : ReaderState.start.Numbered where
  numbers := .refl _
  conditions := by
    intro level member index condition
    rw [List.mem_singleton.mp member] at condition
    cases condition
  outermost := rfl

-----------------------------------------------------------------------------------------
-- Parts of a sequence
-----------------------------------------------------------------------------------------

/-- What reading one part does to the groups: it adds an element without groups to the current
sequence or changes none of the groups, or it opens a level. Only a level that captures is counted.
-/
inductive ReaderState.Advances (state next : ReaderState) : Prop where
  | fills (outer : next.outer = state.outer) (opening : next.level.opening = state.level.opening)
    (alternatives : next.level.alternatives = state.level.alternatives)
    (items : next.level.itemNumbers = state.level.itemNumbers)
    (count : next.groupCount = state.groupCount)
  | opens {opening flags} (outer : next.outer = state.level :: state.outer)
    (level : next.level = ⟨opening, [], [], flags⟩)
    (counted
      : List.range' 1 next.groupCount = List.range' 1 state.groupCount ++ opening.numbers)

/-- A result of reading from a state that advances it, if it is any. -/
def ReaderState.Advanced (state : ReaderState) (result : Except Refusal (ReaderState × List Token))
    : Prop :=
  ∀ next rest, result = .ok (next, rest) → state.Advances next

namespace ReaderState.Advanced

variable {state next : ReaderState} {rest : List Token} {α : Type}

theorem error (refusal : Refusal) : state.Advanced (.error refusal) := by
  intro next rest same
  cases same

theorem ok (advances : state.Advances next) : state.Advanced (.ok (next, rest)) := by
  intro other others same
  cases same
  exact advances

theorem bind {first : Except Refusal α} {after : α → Except Refusal (ReaderState × List Token)}
    (advanced : ∀ value, first = .ok value → state.Advanced (after value))
    : state.Advanced (first >>= after) := by
  cases read : first with
  | error refusal => exact error refusal
  | ok value => exact advanced value read

end ReaderState.Advanced

namespace ReaderState.Advances

variable {state next : ReaderState}

theorem refl (state : ReaderState) : state.Advances state := .fills rfl rfl rfl rfl rfl

theorem push {node : Node} (bare : node.groups = []) (kind : ItemKind)
    : state.Advances (state.push node kind) := by
  refine .fills rfl rfl rfl ?_ rfl
  simp [ReaderState.push, Level.itemNumbers, Node.numbers, bare]

theorem openLevel {engine : Engine} {other : ReaderState} {opening : Opening} {flags : Flags}
    {rest : List Token} (opened : other.openLevel engine opening flags rest = .ok next)
    (level : other.level = state.level)
    (outer : other.outer = state.outer)
    (counted
      : List.range' 1 other.groupCount = List.range' 1 state.groupCount ++ opening.numbers)
    : state.Advances next := by
  unfold ReaderState.openLevel at opened
  split at opened
  · cases opened
    exact .opens (by rw [← level, ← outer]) rfl counted
  · cases opened

/-- A level that does not capture is not counted. -/
theorem openBare {engine : Engine} {other : ReaderState} {opening : Opening} {flags : Flags}
    {rest : List Token} (opened : other.openLevel engine opening flags rest = .ok next)
    (bare : opening.numbers = [])
    (level : other.level = state.level) (outer : other.outer = state.outer)
    (count : other.groupCount = state.groupCount)
    : state.Advances next :=
  openLevel opened level outer (by rw [count, bare, List.append_nil])

theorem openCapture {engine : Engine} {name : Option String} {rest : List Token}
    (opened : openCapture engine state name rest = .ok next)
    : state.Advances next := by
  have counted : List.range' 1 (state.groupCount + 1)
      = List.range' 1 state.groupCount ++ (Opening.capture (state.groupCount + 1)).numbers := by
    rw [List.range'_1_concat, Nat.add_comm]
    rfl
  unfold Pattern.openCapture at opened
  split at opened
  · exact openLevel opened rfl rfl counted
  · split at opened
    · cases opened
    · exact openLevel opened rfl rfl counted

theorem pushSame {index : Nat} (pushed : state.pushSame index = .ok next)
    : state.Advances next := by
  unfold ReaderState.pushSame at pushed
  split at pushed
  · cases pushed
    exact push rfl .plain
  · cases pushed

end ReaderState.Advances

/-- An escape by number stands for a character or for the text of a group. -/
theorem digitEscape_groups {flags : Flags} {c : Char} {tokens rest : List Token} {node : Node}
    {isAnchor : Bool} (read : digitEscape flags c tokens = .ok (.node node isAnchor, rest))
    : node.groups = [] := by
  unfold digitEscape at read
  split at read
  · dsimp only at read
    split at read
    · split at read
      · cases read
      · cases read
        rfl
    · cases read
  · cases read

/-- What an escape stands for has no groups, by cases on the escape. -/
theorem escape_groups {engine : Engine} {flags : Flags} {c : Char} {tokens rest : List Token}
    {node : Node} {isAnchor : Bool}
    (read : escape engine flags c tokens = .ok (.node node isAnchor, rest))
    : node.groups = [] := by
  unfold escape at read
  split at read
  · cases read
    rfl
  · cases read
    rfl
  · cases read
    rfl
  split at read
  · cases read
    rfl
  split at read
  · exact digitEscape_groups read
  cases code : codeEscape engine c tokens with
  | error refusal =>
      rw [code] at read
      cases read
  | ok found =>
      rw [code] at read
      cases read
      rfl

section Parts

variable (engine : Engine) (state : ReaderState) (tokens : List Token)

theorem repeatLast_advanced (min : Nat) (max : Option Nat)
    : state.Advanced (repeatLast state min max tokens) := by
  unfold repeatLast
  split
  · rename_i node items found
    refine .ok (.fills rfl rfl rfl ?_ rfl)
    simp [Level.itemNumbers, found, Node.numbers_repeated]
  · exact .error _

theorem flagGroup_advanced : state.Advanced (flagGroup engine state tokens) := by
  unfold flagGroup
  refine .bind fun ⟨set, stop, rest⟩ _ => ?_
  dsimp only
  split
  · exact .error _
  split
  · split
    · exact .ok (.fills rfl rfl rfl rfl rfl)
    · exact .error _
  split
  · exact .error _
  split
  · exact .bind fun opened done => .ok (.openBare done rfl rfl rfl rfl)
  refine .bind fun ⟨clear, _, rest⟩ _ => ?_
  dsimp only
  split
  · exact .error _
  · exact .bind fun opened done => .ok (.openBare done rfl rfl rfl rfl)

theorem openGroup_advanced : state.Advanced (openGroup engine state tokens) := by
  unfold openGroup
  dsimp only
  split
  · split
    -- a group with a name
    · refine .bind fun ⟨name, rest⟩ _ => ?_
      dsimp only
      split
      · exact .error _
      · exact .bind fun opened done => .ok (.openCapture done)
    -- the text of a group with a name
    · refine .bind fun ⟨name, rest⟩ _ => ?_
      dsimp only
      split
      · exact .error _
      split
      · exact .error _
      · exact .bind fun pushed done => .ok (.pushSame done)
    · exact .bind fun opened done => .ok (.openBare done rfl rfl rfl rfl)
    · exact .bind fun rest _ => .ok (.refl state)
    · exact .bind fun opened done => .ok (.openBare done rfl rfl rfl rfl)
    · exact .bind fun opened done => .ok (.openBare done rfl rfl rfl rfl)
    · split
      · exact .error _
      · exact .bind fun opened done => .ok (.openBare done rfl rfl rfl rfl)
    -- a condition
    · refine .bind fun ⟨name, rest⟩ _ => .bind fun ⟨index, references⟩ _ => ?_
      dsimp only
      split
      · exact .error _
      · exact .bind fun opened done => .ok (.openBare done rfl rfl rfl rfl)
    · exact .bind fun opened done => .ok (.openBare done rfl rfl rfl rfl)
    · split
      · exact flagGroup_advanced engine state _
      · exact .error _
    · exact .error _
  · exact .bind fun opened done => .ok (.openCapture done)

/-- Whatever a part of a pattern is, reading it advances the reader, by cases on the part. -/
theorem readPart_advanced (token : Token)
    : state.Advanced (readPart engine state token tokens) := by
  unfold readPart
  dsimp only
  split
  · exact .error _
  · refine .bind fun ⟨meaning, rest⟩ read => ?_
    dsimp only
    split
    · exact .ok (.push (escape_groups read) _)
    · exact .bind fun pushed done => .ok (.pushSame done)
  split
  · exact .ok (.refl state)
  split
  · exact .ok (.refl state)
  split
  · exact .bind fun ⟨cls, rest⟩ _ => .ok (.push rfl .plain)
  · exact .ok (.push rfl .plain)
  · exact .ok (.push rfl .anchor)
  · exact .ok (.push rfl .anchor)
  · exact openGroup_advanced engine state tokens
  · exact repeatLast_advanced state tokens 0 (some 1)
  · exact repeatLast_advanced state tokens 0 none
  · exact repeatLast_advanced state tokens 1 none
  · refine .bind fun bounds _ => ?_
    split
    · exact repeatLast_advanced state _ _ _
    · exact .ok (.push rfl .plain)
  · exact .ok (.push rfl .plain)

end Parts

-----------------------------------------------------------------------------------------
-- The whole of a pattern
-----------------------------------------------------------------------------------------

namespace ReaderState.Numbered

variable {state next : ReaderState}

theorem getLastD_opening (outer : List Level) (level other : Level)
    (same : level.opening = other.opening)
    : (outer.getLastD level).opening = (outer.getLastD other).opening := by
  cases outer with
  | nil => exact same
  | cons first rest => rfl

/-- Parts of a sequence leave the groups numbered, by cases on what they do to the groups. -/
theorem advances (numbered : state.Numbered) (advances : state.Advances next)
    : next.Numbered := by
  cases advances with
  | fills outer opening alternatives items count =>
      have same : next.level.numbers = state.level.numbers := by
        simp only [Level.numbers, Level.held, opening, alternatives, items]
      refine ⟨?_, ?_, ?_⟩
      · rw [ReaderState.numbers, List.flatMap_cons, same, outer, count]
        exact numbered.numbers
      · intro level member index condition
        rcases List.mem_cons.mp member with rfl | member
        · rw [alternatives]
          exact numbered.conditions state.level List.mem_cons_self index
            (opening.symm.trans condition)
        · rw [outer] at member
          exact numbered.conditions level (List.mem_cons_of_mem _ member) index condition
      · rw [outer, getLastD_opening _ _ state.level opening]
        exact numbered.outermost
  | @opens opening flags outer level counted =>
      refine ⟨?_, ?_, ?_⟩
      · rw [ReaderState.numbers, level, outer, counted, List.flatMap_cons]
        have opened : (Level.mk opening [] [] flags).numbers = opening.numbers := by
          simp [Level.numbers, Level.held, Level.itemNumbers]
        rw [opened]
        exact List.perm_append_comm.trans (numbered.numbers.append_right _)
      · intro other member index condition
        rcases List.mem_cons.mp member with rfl | member
        · rw [level]
          exact Nat.zero_le _
        · rw [outer] at member
          exact numbered.conditions other member index condition
      · rw [outer, List.getLastD_cons]
        exact numbered.outermost

/-- An alternative that ends keeps the groups of its elements. -/
theorem alternative (numbered : state.Numbered) (ended : nextAlternative state = .ok next)
    : next.Numbered := by
  unfold nextAlternative at ended
  dsimp only at ended
  split at ended
  · cases ended
  rename_i fewer
  cases ended
  refine ⟨?_, ?_, ?_⟩
  · refine List.Perm.trans (List.Perm.append_right _ ?_) numbered.numbers
    exact (state.level.sequence_numbers.append_right _).append_left _
  · intro level member index condition
    rcases List.mem_cons.mp member with rfl | member
    · cases alternatives : state.level.alternatives with
      | nil => exact Nat.le_refl 1
      | cons first rest => exact (fewer index first rest condition alternatives).elim
    · exact numbered.conditions level (List.mem_cons_of_mem _ member) index condition
  · refine (getLastD_opening state.outer _ state.level ?_).trans numbered.outermost
    rfl

/-- A level that closes becomes an element of the one around it, with the same groups. -/
theorem closeLevel_eq (numbered : state.Numbered) (outer : Level) (rest : List Level)
    : ∃ node : Node,
        node.numbers.Perm state.level.numbers
        ∧ (closeLevel state outer rest).level
          = { outer with items := ⟨node, .plain⟩ :: outer.items }
        ∧ (closeLevel state outer rest).outer = rest
        ∧ (closeLevel state outer rest).groupCount = state.groupCount := by
  have body := state.level.body_numbers
  have bare : state.level.opening.numbers = [] → state.level.numbers = state.level.held := by
    intro bare
    rw [Level.numbers, bare, List.nil_append]
  unfold closeLevel
  dsimp only
  cases opening : state.level.opening with
  | capture index =>
      refine ⟨.group index state.level.body, ?_, rfl, rfl, rfl⟩
      rw [Level.numbers, opening]
      exact body.cons index
  | plain =>
      refine ⟨state.level.body, ?_, rfl, rfl, rfl⟩
      rw [bare (by rw [opening]; rfl)]
      exact body
  | atomic =>
      refine ⟨.atomic state.level.body, ?_, rfl, rfl, rfl⟩
      rw [bare (by rw [opening]; rfl)]
      exact body
  | ahead negated =>
      refine ⟨.ahead negated state.level.body, ?_, rfl, rfl, rfl⟩
      rw [bare (by rw [opening]; rfl)]
      exact body
  | behind negated outermost =>
      refine ⟨.behind negated _ state.level.body, ?_, rfl, rfl, rfl⟩
      rw [bare (by rw [opening]; rfl)]
      exact body
  | ifGroup index =>
      have few := numbered.conditions state.level List.mem_cons_self index opening
      have sequence := state.level.sequence_numbers
      rw [bare (by rw [opening]; rfl), Level.held]
      cases alternatives : state.level.alternatives with
      | nil =>
          refine ⟨.ifGroup index state.level.sequence .empty, ?_, rfl, rfl, rfl⟩
          simpa [Node.numbers, Node.groups] using sequence
      | cons yes more =>
          rw [alternatives] at few
          obtain rfl : more = [] := by simpa using few
          refine ⟨.ifGroup index yes state.level.sequence, ?_, rfl, rfl, rfl⟩
          have parts := (sequence.append_left yes.numbers).trans List.perm_append_comm
          simpa [Node.numbers, Node.groups] using parts

/-- A level that closes leaves the groups numbered. -/
theorem close (numbered : state.Numbered) {outer : Level} {rest : List Level}
    (around : state.outer = outer :: rest)
    : (closeLevel state outer rest).Numbered := by
  obtain ⟨node, same, level, outers, count⟩ := numbered.closeLevel_eq outer rest
  refine ⟨?_, ?_, ?_⟩
  · have numbers := numbered.numbers
    rw [ReaderState.numbers, around, List.flatMap_cons, List.flatMap_cons] at numbers
    rw [ReaderState.numbers, List.flatMap_cons, level, outers, count]
    refine List.Perm.trans ?_ numbers
    have taken : (Level.numbers { outer with items := ⟨node, .plain⟩ :: outer.items }).Perm
        (node.numbers ++ outer.numbers) := by
      have moved : (outer.opening.numbers ++ node.numbers).Perm
          (node.numbers ++ outer.opening.numbers) := List.perm_append_comm
      simpa [Level.numbers, Level.held, Level.itemNumbers]
        using moved.append_right (outer.itemNumbers ++ outer.alternatives.flatMap Node.numbers)
    have whole := (taken.trans (same.append_right _)).append_right (rest.flatMap Level.numbers)
    rwa [List.append_assoc] at whole
  · intro other member index condition
    rw [outers] at member
    rcases List.mem_cons.mp member with rfl | member
    · rw [level] at condition ⊢
      have known : outer ∈ state.level :: state.outer := by simp [around]
      exact numbered.conditions outer known index condition
    · have known : other ∈ state.level :: state.outer := by simp [around, member]
      exact numbered.conditions other known index condition
  · have outermost := numbered.outermost
    rw [around, List.getLastD_cons] at outermost
    rw [outers, level]
    refine (getLastD_opening rest _ outer ?_).trans outermost
    rfl

/-- At the end of a pattern the outermost level holds all groups. -/
theorem finish (numbered : state.Numbered) (outermost : state.outer = [])
    : state.level.body.numbers.Perm (List.range' 1 state.groupCount) := by
  have opening := numbered.outermost
  have numbers := numbered.numbers
  rw [outermost, List.getLastD_nil] at opening
  rw [ReaderState.numbers, outermost, List.flatMap_singleton, Level.numbers, opening] at numbers
  exact state.level.body_numbers.trans numbers

end ReaderState.Numbered

/-- What is checked at the end changes nothing. -/
theorem finalCheck_eq {state last : ReaderState} {unbalanced : Bool}
    (checked : finalCheck state unbalanced = .ok last)
    : last = state := by
  unfold finalCheck at checked
  split at checked
  · cases checked
  split at checked
  · cases checked
  · cases checked
    rfl

/-- A pattern that is read to its end has its groups numbered and all of them closed.
Witness: induction on the fuel; every step leaves the groups of the reader numbered.
-/
theorem readAll_numbered {engine : Engine} {fuel : Nat} {state last : ReaderState}
    {tokens : List Token} (numbered : state.Numbered)
    (read : readAll engine fuel state tokens = .ok last)
    : last.Numbered ∧ last.outer = [] := by
  induction fuel generalizing state tokens with
  | zero => cases read
  | succ fuel ih =>
      rw [readAll.eq_def] at read
      dsimp only at read
      split at read
      · rename_i outermost
        exact finalCheck_eq read ▸ ⟨numbered, outermost⟩
      · cases read
      · rename_i outermost
        exact finalCheck_eq read ▸ ⟨numbered, outermost⟩
      · rename_i around
        exact ih (numbered.close around) read
      · cases ended : nextAlternative state with
        | error refusal =>
            rw [ended] at read
            cases read
        | ok next =>
            rw [ended] at read
            exact ih (numbered.alternative ended) read
      · rename_i token rest _ _ _
        cases part : readPart engine state token rest with
        | error refusal =>
            rw [part] at read
            cases read
        | ok found =>
            rw [part] at read
            exact ih (numbered.advances (readPart_advanced engine state rest token _ _ part)) read

/-- A pattern counts its groups right: those in its structure are numbered from one up to their
count, each number once.
-/
theorem parse_numbers {engine : Engine} {source : String} {pattern : Pattern}
    (read : parse engine source = .ok pattern)
    : pattern.root.numbers.Perm (List.range' 1 pattern.groupCount) := by
  unfold parse at read
  dsimp only at read
  cases whole : readAll engine ((Token.ofChars source.toList).length + 1) .start
      (Token.ofChars source.toList) with
  | error refusal =>
      rw [whole] at read
      cases read
  | ok last =>
      rw [whole] at read
      obtain ⟨numbered, outermost⟩ := readAll_numbered .start whole
      change ofReader engine source last = _ at read
      unfold ofReader at read
      split at read
      · cases read
      split at read
      · cases read
      · cases read
        exact numbered.finish outermost

end Conductor.Pattern
