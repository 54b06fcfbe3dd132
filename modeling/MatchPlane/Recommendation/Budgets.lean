import Mathlib

/-!
# Budgeted equality

Two values are compared under a budget of bytes and of nodes that all their parts share.
Without a budget left the comparison has no answer.
-/

namespace MatchPlane.Recommendation

variable {ν : Type}

/-- A value of JSON, for any kind of numbers. -/
inductive Value (ν : Type) where
  | null
  | bool (value : Bool)
  | number (value : ν)
  | string (value : String)
  | array (elements : List (Value ν))
  | object (fields : List (String × Value ν))

namespace Value

/-! ## Maps -/

mutual

/-- The fields of every object are those of a map: each key is there once. -/
def Keyed : Value ν → Prop
  | array elements => KeyedElements elements
  | object fields => (fields.map Prod.fst).Nodup ∧ KeyedFields fields
  | _ => True

def KeyedElements : List (Value ν) → Prop
  | [] => True
  | element :: rest => Keyed element ∧ KeyedElements rest

def KeyedFields : List (String × Value ν) → Prop
  | [] => True
  | (_, value) :: rest => Keyed value ∧ KeyedFields rest

end

section Equality

variable [BEq ν]

mutual

/-- Structural equality: arrays by their elements, and objects as maps. -/
def Same : Value ν → Value ν → Prop
  | null, null => True
  | bool left, bool right => left = right
  | number left, number right => (left == right) = true
  | string left, string right => left = right
  | array left, array right => SameElements left right
  | object left, object right =>
    (∀ key, key ∈ left.map Prod.fst ↔ key ∈ right.map Prod.fst) ∧ SameFields left right
  | _, _ => False

def SameElements : List (Value ν) → List (Value ν) → Prop
  | [], [] => True
  | left :: lefts, right :: rights => Same left right ∧ SameElements lefts rights
  | _, _ => False

/-- Every field has the same value among the other ones. -/
def SameFields : List (String × Value ν) → List (String × Value ν) → Prop
  | [], _ => True
  | (key, left) :: lefts, rights =>
    (∃ right, rights.lookup key = some right ∧ Same left right) ∧ SameFields lefts rights

end

end Equality

/-! ## Sizes -/

mutual

def nodes : Value ν → Nat
  | array elements => 1 + nodesOfElements elements
  | object fields => 1 + nodesOfFields fields
  | _ => 1

def nodesOfElements : List (Value ν) → Nat
  | [] => 0
  | element :: rest => nodes element + nodesOfElements rest

def nodesOfFields : List (String × Value ν) → Nat
  | [] => 0
  | (_, value) :: rest => nodes value + nodesOfFields rest

end

mutual

/-- How deep the parts of a value are nested. -/
def nesting : Value ν → Nat
  | array elements => nestingOfElements elements
  | object fields => nestingOfFields fields
  | _ => 0

def nestingOfElements : List (Value ν) → Nat
  | [] => 0
  | element :: rest => max (nesting element + 1) (nestingOfElements rest)

def nestingOfFields : List (String × Value ν) → Nat
  | [] => 0
  | (_, value) :: rest => max (nesting value + 1) (nestingOfFields rest)

end

mutual

/-- The bytes of the keys, and of the strings that are compared, on both sides. -/
def comparedBytes : Value ν → Value ν → Nat
  | string left, string right => left.utf8ByteSize + right.utf8ByteSize
  | array left, array right => comparedElements left right
  | object left, object right => comparedFields left right
  | _, _ => 0

def comparedElements : List (Value ν) → List (Value ν) → Nat
  | left :: lefts, right :: rights => comparedBytes left right + comparedElements lefts rights
  | _, _ => 0

def comparedFields : List (String × Value ν) → List (String × Value ν) → Nat
  | [], _ => 0
  | (key, left) :: lefts, rights =>
    key.utf8ByteSize + ((rights.lookup key).elim 0 fun right => comparedBytes left right) +
      comparedFields lefts rights

end

end Value

/-! ## The comparison -/

structure InspectionBudget where
  remainingBytes : Nat
  remainingNodes : Nat
  deriving DecidableEq, Repr

namespace InspectionBudget

def consumeNode (budget : InspectionBudget) : Bool × InspectionBudget :=
  if budget.remainingNodes = 0 then (false, budget)
  else (true, { budget with remainingNodes := budget.remainingNodes - 1 })

/-- A request that does not fit uses up what is left. -/
def consumeBytes (budget : InspectionBudget) (amount : Nat) : Bool × InspectionBudget :=
  if budget.remainingBytes < amount then (false, { budget with remainingBytes := 0 })
  else (true, { budget with remainingBytes := budget.remainingBytes - amount })

end InspectionBudget

/-- Goes on with the rest while the values are the same. -/
def whileSame (outcome : Option Bool × InspectionBudget)
    (rest : InspectionBudget → Option Bool × InspectionBudget) :
    Option Bool × InspectionBudget :=
  match outcome with
  | (some true, budget) => rest budget
  | other => other

/-- `usize::saturating_add`. -/
def saturatingAdd (first second : Nat) : Nat := min (first + second) (2 ^ 64 - 1)

section Comparison

variable [BEq ν]

mutual

def boundedValueEqual (maxDepth : Nat) : Value ν → Value ν → InspectionBudget → Nat →
    Option Bool × InspectionBudget
  | left, right, budget, depth =>
    if maxDepth < depth then (none, budget)
    else
      match budget.consumeNode with
      | (false, budget) => (none, budget)
      | (true, budget) =>
        match left, right with
        | .null, .null => (some true, budget)
        | .bool left, .bool right => (some (left = right), budget)
        | .number left, .number right => (some (left == right), budget)
        | .string left, .string right =>
          let (consumed, budget) :=
            budget.consumeBytes (saturatingAdd left.utf8ByteSize right.utf8ByteSize)
          (if consumed then some (left = right) else none, budget)
        | .array left, .array right =>
          if left.length ≠ right.length then (some false, budget)
          else boundedElementsEqual maxDepth left right budget depth
        | .object left, .object right =>
          if left.length ≠ right.length then (some false, budget)
          else boundedFieldsEqual maxDepth left right budget depth
        | _, _ => (some false, budget)

def boundedElementsEqual (maxDepth : Nat) : List (Value ν) → List (Value ν) → InspectionBudget →
    Nat → Option Bool × InspectionBudget
  | left :: lefts, right :: rights, budget, depth =>
    whileSame (boundedValueEqual maxDepth left right budget (depth + 1)) fun budget =>
      boundedElementsEqual maxDepth lefts rights budget depth
  | _, _, budget, _ => (some true, budget)

def boundedFieldsEqual (maxDepth : Nat) : List (String × Value ν) → List (String × Value ν) →
    InspectionBudget → Nat → Option Bool × InspectionBudget
  | [], _, budget, _ => (some true, budget)
  | (key, left) :: lefts, rights, budget, depth =>
    match budget.consumeBytes key.utf8ByteSize with
    | (false, budget) => (none, budget)
    | (true, budget) =>
      match rights.lookup key with
      | none => (some false, budget)
      | some right =>
        whileSame (boundedValueEqual maxDepth left right budget (depth + 1)) fun budget =>
          boundedFieldsEqual maxDepth lefts rights budget depth

end

/-- What a comparison owes: the answer that is right, a budget that does not grow, and an
answer at all where the depth and the budget are enough. -/
structure Verdict (same : Prop) (fits : Prop) (nodes bytes : Nat) (budget : InspectionBudget)
    (outcome : Option Bool × InspectionBudget) : Prop where
  sound : ∀ answer, outcome.1 = some answer → (answer = true ↔ same)
  bytes_le : outcome.2.remainingBytes ≤ budget.remainingBytes
  nodes_le : outcome.2.remainingNodes ≤ budget.remainingNodes
  answers : fits → nodes ≤ budget.remainingNodes → bytes ≤ budget.remainingBytes →
    outcome.1 ≠ none ∧ budget.remainingNodes ≤ outcome.2.remainingNodes + nodes ∧
      budget.remainingBytes ≤ outcome.2.remainingBytes + bytes

section Verdicts

variable {same other fits : Prop} {nodes bytes moreNodes moreBytes : Nat}
  {budget : InspectionBudget} {outcome : Option Bool × InspectionBudget}

/-- An answer that needs nothing. -/
theorem Verdict.of_answer {answer : Bool} (h : answer = true ↔ same) :
    Verdict same fits nodes bytes budget (some answer, budget) where
  sound := by
    rintro _ ⟨⟩
    exact h
  bytes_le := Nat.le_refl _
  nodes_le := Nat.le_refl _
  answers _ _ _ := ⟨by simp, Nat.le_add_right _ _, Nat.le_add_right _ _⟩

/-- No answer is owed where the depth is not enough. -/
theorem Verdict.of_none (h : ¬ fits) : Verdict same fits nodes bytes budget (none, budget) where
  sound _ hanswer := by cases hanswer
  bytes_le := Nat.le_refl _
  nodes_le := Nat.le_refl _
  answers hfits := absurd hfits h

/-- A verdict that owes less. -/
theorem Verdict.mono {fits' : Prop} {nodes' bytes' : Nat}
    (h : Verdict same fits nodes bytes budget outcome) (hfits : fits' → fits)
    (hnodes : nodes ≤ nodes') (hbytes : bytes ≤ bytes') :
    Verdict same fits' nodes' bytes' budget outcome where
  sound := h.sound
  bytes_le := h.bytes_le
  nodes_le := h.nodes_le
  answers hfits' hn hb := by
    have hleft := h.answers (hfits hfits') (by omega) (by omega)
    exact ⟨hleft.1, by omega, by omega⟩

/-- A verdict on an equivalent property. -/
theorem Verdict.congr (h : Verdict same fits nodes bytes budget outcome) (hsame : same ↔ other) :
    Verdict other fits nodes bytes budget outcome where
  sound answer hanswer := (h.sound answer hanswer).trans hsame
  bytes_le := h.bytes_le
  nodes_le := h.nodes_le
  answers := h.answers

/-- The rest is only compared after a first part that is the same. -/
theorem Verdict.whileSame {rest : InspectionBudget → Option Bool × InspectionBudget}
    (h : Verdict same fits nodes bytes budget outcome)
    (hrest : ∀ left, Verdict other fits moreNodes moreBytes left (rest left)) :
    Verdict (same ∧ other) fits (nodes + moreNodes) (bytes + moreBytes) budget
      (Recommendation.whileSame outcome rest) := by
  obtain ⟨hsound, hbytes, hnodes, hanswers⟩ := h
  obtain ⟨answer, left⟩ := outcome
  match answer with
  | none =>
    refine ⟨fun _ hanswer => (by cases hanswer), hbytes, hnodes, fun hfits hn hb => ?_⟩
    exact absurd rfl (hanswers hfits (by omega) (by omega)).1
  | some false =>
    have hnot : ¬ same := by simpa using hsound false rfl
    refine ⟨?_, hbytes, hnodes, fun hfits hn hb => ?_⟩
    · rintro _ ⟨⟩
      simp [hnot]
    · have hleft := hanswers hfits (by omega) (by omega)
      dsimp only [Recommendation.whileSame] at hleft ⊢
      exact ⟨by simp, by omega, by omega⟩
  | some true =>
    have hsame : same := (hsound true rfl).mp rfl
    obtain ⟨hsound', hbytes', hnodes', hanswers'⟩ := hrest left
    refine ⟨?_, Nat.le_trans hbytes' hbytes, Nat.le_trans hnodes' hnodes, fun hfits hn hb => ?_⟩
    · intro answer hanswer
      rw [hsound' answer hanswer]
      simp [hsame]
    · have hleft := (hanswers hfits (by omega) (by omega)).2
      dsimp only at hleft hnodes hbytes
      have hright := hanswers' hfits (by omega) (by omega)
      exact ⟨hright.1, by dsimp only [Recommendation.whileSame]; omega,
        by dsimp only [Recommendation.whileSame]; omega⟩

/-- A part that costs bytes of its own first. -/
theorem Verdict.consumeBytes {rest : InspectionBudget → Option Bool × InspectionBudget} {cost : Nat}
    (hrest : ∀ left, Verdict same fits nodes bytes left (rest left)) :
    Verdict same fits nodes (cost + bytes) budget
      (match budget.consumeBytes cost with
        | (false, budget) => (none, budget)
        | (true, budget) => rest budget) := by
  unfold InspectionBudget.consumeBytes
  split
  · next left hconsumed =>
    split at hconsumed
    · next hfew =>
      cases hconsumed
      exact ⟨fun _ hanswer => (by cases hanswer), Nat.zero_le _, Nat.le_refl _,
        fun _ _ hbytes => (by omega)⟩
    · cases hconsumed
  · next left hconsumed =>
    split at hconsumed
    · cases hconsumed
    · next henough =>
      cases hconsumed
      obtain ⟨hsound, hbytes, hnodes, hanswers⟩ :=
        hrest { budget with remainingBytes := budget.remainingBytes - cost }
      dsimp only at hbytes hnodes hanswers
      refine ⟨hsound, by omega, hnodes, fun hfits hn hb => ?_⟩
      have hleft := hanswers hfits hn (by omega)
      exact ⟨hleft.1, hleft.2.1, by omega⟩

/-- A value costs a node first, and is only compared within the depth. -/
theorem Verdict.consumeNode {rest : InspectionBudget → Option Bool × InspectionBudget}
    {maxDepth depth : Nat} (hfits : fits → depth ≤ maxDepth)
    (hrest : ∀ left, Verdict same fits nodes bytes left (rest left)) :
    Verdict same fits (1 + nodes) bytes budget
      (if maxDepth < depth then (none, budget)
      else
        match budget.consumeNode with
        | (false, budget) => (none, budget)
        | (true, budget) => rest budget) := by
  split
  · next hdeep => exact .of_none fun h => absurd (hfits h) (by omega)
  · unfold InspectionBudget.consumeNode
    split
    · next left hconsumed =>
      split at hconsumed
      · next hnone =>
        cases hconsumed
        exact ⟨fun _ hanswer => (by cases hanswer), Nat.le_refl _, Nat.le_refl _,
          fun _ hn _ => (by omega)⟩
      · cases hconsumed
    · next left hconsumed =>
      split at hconsumed
      · cases hconsumed
      · next hsome =>
        cases hconsumed
        obtain ⟨hsound, hbytes, hnodes, hanswers⟩ :=
          hrest { budget with remainingNodes := budget.remainingNodes - 1 }
        dsimp only at hbytes hnodes hanswers
        refine ⟨hsound, hbytes, by omega, fun hfits hn hb => ?_⟩
        have hleft := hanswers hfits (by omega) hb
        exact ⟨hleft.1, by omega, hleft.2.2⟩

end Verdicts

/-! ## Every comparison -/

section Objects

variable {lefts rights : List (String × Value ν)} {key : String}

theorem mem_keys_of_sameFields (h : Value.SameFields lefts rights)
    (hkey : key ∈ lefts.map Prod.fst) : key ∈ rights.map Prod.fst := by
  induction lefts with
  | nil => simp at hkey
  | cons field lefts ih =>
      obtain ⟨name, left⟩ := field
      obtain ⟨⟨right, hright, -⟩, hrest⟩ := h
      rcases List.mem_cons.mp hkey with rfl | hkey
      · obtain ⟨before, after, hsplit, -⟩ := List.lookup_eq_some_iff.mp hright
        simp [hsplit]
      · exact ih hrest hkey

omit [BEq ν] in
theorem keyed_of_lookup {right : Value ν} (h : Value.KeyedFields rights)
    (hlookup : rights.lookup key = some right) : right.Keyed := by
  induction rights with
  | nil => cases hlookup
  | cons field rights ih =>
      obtain ⟨name, value⟩ := field
      rw [List.lookup_cons] at hlookup
      split at hlookup
      · cases hlookup
        exact h.1
      · exact ih h.2 hlookup

/-- Maps of one size are the same when each field of one has its value in the other. -/
theorem same_object_iff (hlefts : (lefts.map Prod.fst).Nodup)
    (hrights : (rights.map Prod.fst).Nodup) :
    Value.Same (.object lefts) (.object rights) ↔
      lefts.length = rights.length ∧ Value.SameFields lefts rights := by
  rw [Value.Same]
  constructor
  · rintro ⟨hkeys, hfields⟩
    have hperm := (List.perm_ext_iff_of_nodup hlefts hrights).mpr hkeys
    exact ⟨by simpa using hperm.length_eq, hfields⟩
  · rintro ⟨hlength, hfields⟩
    have hsub : lefts.map Prod.fst ⊆ rights.map Prod.fst := fun key hkey =>
      mem_keys_of_sameFields hfields hkey
    have hperm := (List.subperm_of_subset hlefts hsub).perm_of_length_le (by simp [hlength])
    exact ⟨fun key => hperm.mem_iff, hfields⟩

end Objects

theorem length_eq_of_sameElements : ∀ {lefts rights : List (Value ν)},
    Value.SameElements lefts rights → lefts.length = rights.length
  | [], [], _ => rfl
  | [], _ :: _, h => h.elim
  | _ :: _, [], h => h.elim
  | _ :: _, _ :: _, h => congrArg Nat.succ (length_eq_of_sameElements h.2)

/-- Strings cost their bytes, on both sides. -/
theorem compareStrings_verdict {fits : Prop} (left right : String) (budget : InspectionBudget) :
    Verdict (left = right) fits 0 (left.utf8ByteSize + right.utf8ByteSize) budget
      (let (consumed, budget) :=
         budget.consumeBytes (saturatingAdd left.utf8ByteSize right.utf8ByteSize)
       (if consumed then some (left = right) else none, budget)) := by
  have hcost : saturatingAdd left.utf8ByteSize right.utf8ByteSize + 0 ≤
      left.utf8ByteSize + right.utf8ByteSize := Nat.min_le_left _ _
  have hanswer (budget : InspectionBudget) :
      Verdict (left = right) fits 0 0 budget (some (decide (left = right)), budget) :=
    .of_answer decide_eq_true_iff
  have hconsume := @Verdict.consumeBytes _ _ _ _ budget
    (fun budget => (some (decide (left = right)), budget))
    (saturatingAdd left.utf8ByteSize right.utf8ByteSize) hanswer
  have hverdict := hconsume.mono id (Nat.le_refl _) hcost
  cases hconsumed : budget.consumeBytes (saturatingAdd left.utf8ByteSize right.utf8ByteSize) with
  | mk consumed rest =>
    rw [hconsumed] at hverdict
    cases consumed with
    | false => exact hverdict
    | true => exact hverdict

mutual

/-- Every comparison owes what its verdict says. -/
theorem boundedValueEqual_verdict (maxDepth : Nat) : ∀ (left right : Value ν)
    (budget : InspectionBudget) (depth : Nat), left.Keyed → right.Keyed →
      Verdict (Value.Same left right) (depth + left.nesting ≤ maxDepth) left.nodes
        (Value.comparedBytes left right) budget
        (boundedValueEqual maxDepth left right budget depth)
  | .null, right, budget, depth, _, _ => by
    rw [boundedValueEqual]
    change Verdict _ _ (1 + 0) _ _ _
    apply Verdict.consumeNode (by omega)
    intro budget
    cases right with
    | _ => exact .of_answer (by simp [Value.Same])
  | .bool left, right, budget, depth, _, _ => by
    rw [boundedValueEqual]
    change Verdict _ _ (1 + 0) _ _ _
    apply Verdict.consumeNode (by omega)
    intro budget
    cases right with
    | _ => exact .of_answer (by simp [Value.Same])
  | .number left, right, budget, depth, _, _ => by
    rw [boundedValueEqual]
    change Verdict _ _ (1 + 0) _ _ _
    apply Verdict.consumeNode (by omega)
    intro budget
    cases right with
    | _ => exact .of_answer (by simp [Value.Same])
  | .string left, right, budget, depth, _, _ => by
    rw [boundedValueEqual]
    change Verdict _ _ (1 + 0) _ _ _
    apply Verdict.consumeNode (by omega)
    intro budget
    cases right with
    | string right => exact compareStrings_verdict left right budget
    | _ => exact .of_answer (by simp [Value.Same])
  | .array left, right, budget, depth, hleft, hright => by
    have helements := boundedElementsEqual_verdict maxDepth left
    rw [boundedValueEqual, Value.nodes]
    apply Verdict.consumeNode (by omega)
    intro budget
    cases right with
    | array right =>
        dsimp only
        split
        · next hlength =>
          refine .of_answer ?_
          simp only [Bool.false_eq_true, false_iff]
          exact fun hsame => hlength (length_eq_of_sameElements hsame)
        · next hlength => exact helements right budget depth (not_not.mp hlength) hleft hright
    | _ => exact .of_answer (by simp [Value.Same])
  | .object left, right, budget, depth, hleft, hright => by
    have hfields := boundedFieldsEqual_verdict maxDepth left
    rw [boundedValueEqual, Value.nodes]
    apply Verdict.consumeNode (by omega)
    intro budget
    cases right with
    | object right =>
        have hsame := same_object_iff hleft.1 hright.1
        dsimp only
        split
        · next hlength => exact .of_answer (by simp [hsame, hlength])
        · next hlength =>
          apply (hfields right budget depth hleft.2 hright.2).congr
          rw [hsame]
          simp [not_not.mp hlength]
    | _ => exact .of_answer (by simp [Value.Same])

theorem boundedElementsEqual_verdict (maxDepth : Nat) : ∀ (lefts rights : List (Value ν))
    (budget : InspectionBudget) (depth : Nat), lefts.length = rights.length →
      Value.KeyedElements lefts → Value.KeyedElements rights →
        Verdict (Value.SameElements lefts rights)
          (depth + Value.nestingOfElements lefts ≤ maxDepth) (Value.nodesOfElements lefts)
          (Value.comparedElements lefts rights) budget
          (boundedElementsEqual maxDepth lefts rights budget depth)
  | [], [], budget, depth, _, _, _ => by
    rw [boundedElementsEqual]
    · exact .of_answer (by simp [Value.SameElements])
    · simp
  | left :: lefts, right :: rights, budget, depth, hlength, hlefts, hrights => by
    have hfirst :=
      boundedValueEqual_verdict maxDepth left right budget (depth + 1) hlefts.1 hrights.1
    have hrest := boundedElementsEqual_verdict maxDepth lefts rights
    rw [boundedElementsEqual, Value.SameElements, Value.nodesOfElements, Value.comparedElements,
      Value.nestingOfElements]
    apply Verdict.whileSame
    · exact hfirst.mono (by omega) (Nat.le_refl _) (Nat.le_refl _)
    · intro budget
      have hlater := hrest budget depth (by simpa using hlength) hlefts.2 hrights.2
      exact hlater.mono (by omega) (Nat.le_refl _) (Nat.le_refl _)

theorem boundedFieldsEqual_verdict (maxDepth : Nat) : ∀ (lefts rights : List (String × Value ν))
    (budget : InspectionBudget) (depth : Nat),
      Value.KeyedFields lefts → Value.KeyedFields rights →
        Verdict (Value.SameFields lefts rights)
          (depth + Value.nestingOfFields lefts ≤ maxDepth) (Value.nodesOfFields lefts)
          (Value.comparedFields lefts rights) budget
          (boundedFieldsEqual maxDepth lefts rights budget depth)
  | [], rights, budget, depth, _, _ => by
    rw [boundedFieldsEqual]
    exact .of_answer (by simp [Value.SameFields])
  | (key, left) :: lefts, rights, budget, depth, hlefts, hrights => by
    have hfirst := boundedValueEqual_verdict maxDepth left
    have hrest := boundedFieldsEqual_verdict maxDepth lefts rights
    rw [boundedFieldsEqual, Value.SameFields, Value.nodesOfFields, Value.comparedFields,
      Value.nestingOfFields, Nat.add_assoc]
    apply Verdict.consumeBytes
    intro budget
    cases hlookup : rights.lookup key with
    | none => exact .of_answer (by simp)
    | some right =>
        have hkeyed := keyed_of_lookup hrights hlookup
        simp only [Option.elim_some, Option.some.injEq, exists_eq_left']
        apply Verdict.whileSame
        · exact (hfirst right budget (depth + 1) hlefts.1 hkeyed).mono (by omega) (Nat.le_refl _)
            (Nat.le_refl _)
        · intro budget
          exact (hrest budget depth hlefts.2 hrights).mono (by omega) (Nat.le_refl _)
            (Nat.le_refl _)

end

/-- A value whose objects are maps. -/
abbrev KeyedValue (ν : Type) := {value : Value ν // value.Keyed}

/-- An answer is structural equality, no budget grows, and there is an answer where the nodes,
the bytes and the depth are within their bounds. -/
theorem boundedValueEqual_spec (left right : KeyedValue ν) (budget : InspectionBudget)
    (depth maxDepth : Nat) :
    (∀ answer, (boundedValueEqual maxDepth left.1 right.1 budget depth).1 = some answer →
      (answer = true ↔ Value.Same left.1 right.1)) ∧
    (boundedValueEqual maxDepth left.1 right.1 budget depth).2.remainingBytes ≤
      budget.remainingBytes ∧
    (boundedValueEqual maxDepth left.1 right.1 budget depth).2.remainingNodes ≤
      budget.remainingNodes ∧
    (depth + left.1.nesting ≤ maxDepth → depth + right.1.nesting ≤ maxDepth →
      left.1.nodes ≤ budget.remainingNodes →
      Value.comparedBytes left.1 right.1 ≤ budget.remainingBytes →
      (boundedValueEqual maxDepth left.1 right.1 budget depth).1 ≠ none) := by
  have hverdict := boundedValueEqual_verdict maxDepth left.1 right.1 budget depth left.2 right.2
  exact ⟨hverdict.sound, hverdict.bytes_le, hverdict.nodes_le,
    fun hdepth _ hnodes hbytes => (hverdict.answers hdepth hnodes hbytes).1⟩

end Comparison

theorem boundedValueEqual_spec_fits :
    (boundedValueEqual 1 (.object [("a", .number (1 : Int))]) (.object [("a", .number 1)]) ⟨1, 2⟩
      0).1 ≠ none :=
  (boundedValueEqual_spec ⟨.object [("a", .number (1 : Int))], by
      simp [Value.Keyed, Value.KeyedFields]⟩ ⟨.object [("a", .number 1)], by
      simp [Value.Keyed, Value.KeyedFields]⟩ ⟨1, 2⟩ 0 1).2.2.2 (by decide) (by decide) (by decide)
    (by decide +kernel)

end MatchPlane.Recommendation
