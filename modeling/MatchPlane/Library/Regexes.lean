import MatchPlane.Library.Unicode

/-!
# Regular expressions

Expressions over the units of a text with its start, its end and the boundaries of words, and
a search for them that follows every way in which an expression can match.
-/

namespace MatchPlane.Library

/-- A place in a text: the unit before it, and what comes after it. -/
structure Place where
  before : Option UInt16
  rest : CodeUnits
  deriving DecidableEq

/-- `\w`. -/
def isWordUnit (unit : UInt16) : Bool :=
  (48 ≤ unit.toNat ∧ unit.toNat ≤ 57) ∨ (65 ≤ unit.toNat ∧ unit.toNat ≤ 90) ∨
    (97 ≤ unit.toNat ∧ unit.toNat ≤ 122) ∨ unit = 95

namespace Place

variable (place : Place)

def atStart : Bool := place.before.isNone

def atEnd : Bool := place.rest.isEmpty

/-- `\b`. -/
def atBoundary : Bool := place.before.any isWordUnit != place.rest.head?.any isWordUnit

/-- The place after a unit. -/
def after (unit : UInt16) (rest : CodeUnits) : Place := ⟨some unit, rest⟩

end Place

inductive Regex where
  | nothing
  | unit (accept : UInt16 → Bool)
  /-- A place of a kind, without a unit. -/
  | assertion (holds : Place → Bool)
  | seq (first second : Regex)
  | either (first second : Regex)
  | star (inner : Regex)

namespace Regex

/-- An expression matches from one place to another one. -/
inductive Matches : Regex → Place → Place → Prop where
  | nothing (place : Place) : Matches nothing place place
  | unit {accept : UInt16 → Bool} {before : Option UInt16} {head : UInt16} {rest : CodeUnits}
      (h : accept head = true) : Matches (unit accept) ⟨before, head :: rest⟩ (.after head rest)
  | assertion {holds : Place → Bool} {place : Place} (h : holds place = true) :
      Matches (assertion holds) place place
  | seq {first second : Regex} {start middle last : Place} (h : Matches first start middle)
      (h' : Matches second middle last) : Matches (seq first second) start last
  | left {first second : Regex} {start last : Place} (h : Matches first start last) :
      Matches (either first second) start last
  | right {first second : Regex} {start last : Place} (h : Matches second start last) :
      Matches (either first second) start last
  | done {inner : Regex} (place : Place) : Matches (star inner) place place
  | more {inner : Regex} {start middle last : Place} (h : Matches inner start middle)
      (h' : Matches (star inner) middle last) : Matches (star inner) start last

/-- The places that rounds of a step reach; a round that does not move is left out. -/
def rounds (step : Place → List Place) : Nat → Place → List Place
  | 0, place => [place]
  | bound + 1, place => place ::
      ((step place).filter fun next => next.rest.length < place.rest.length).flatMap
        (rounds step bound)

/-- The places where a match from a place can end. -/
def run : Regex → Place → List Place
  | nothing, place => [place]
  | unit accept, ⟨_, head :: rest⟩ => if accept head then [.after head rest] else []
  | unit _, ⟨_, []⟩ => []
  | assertion holds, place => if holds place then [place] else []
  | seq first second, place => (run first place).flatMap (run second)
  | either first second, place => run first place ++ run second place
  | star inner, place => rounds (run inner) place.rest.length place

/-- The places of a text from one on. -/
def places : Option UInt16 → CodeUnits → List Place
  | before, [] => [⟨before, []⟩]
  | before, head :: rest => ⟨before, head :: rest⟩ :: places (some head) rest

/-- `RegExp.prototype.test`. -/
def test (regex : Regex) (text : CodeUnits) : Bool :=
  (places none text).any fun place => (run regex place).isEmpty = false

/-! ## Expressions -/

def sequence : List Regex → Regex
  | [] => nothing
  | first :: rest => seq first (sequence rest)

def choice : List Regex → Regex
  | [] => assertion fun _ => false
  | first :: rest => either first (choice rest)

def optional (inner : Regex) : Regex := either inner nothing

def plus (inner : Regex) : Regex := seq inner (star inner)

def times (inner : Regex) (count : Nat) : Regex := sequence (List.replicate count inner)

/-- `{count,}`. -/
def atLeast (inner : Regex) (count : Nat) : Regex := seq (times inner count) (star inner)

def oneOf (units : CodeUnits) : Regex := unit fun other => other ∈ units

def literally (text : CodeUnits) : Regex := sequence (text.map fun head => oneOf [head])

/-! ## The search finds what matches -/

/-- A match that does not stay where it is comes closer to the end. -/
theorem Matches.shortens {regex : Regex} {start last : Place} (h : Matches regex start last) :
    last = start ∨ last.rest.length < start.rest.length := by
  induction h with
  | nothing place => exact .inl rfl
  | unit h => exact .inr (by simp [Place.after])
  | assertion h => exact .inl rfl
  | seq _ _ ih ih' =>
      rcases ih with rfl | hlt <;> rcases ih' with rfl | hlt'
      · exact .inl rfl
      · exact .inr hlt'
      · exact .inr hlt
      · exact .inr (by omega)
  | left _ ih => exact ih
  | right _ ih => exact ih
  | done place => exact .inl rfl
  | more _ _ ih ih' =>
      rcases ih with rfl | hlt <;> rcases ih' with rfl | hlt'
      · exact .inl rfl
      · exact .inr hlt'
      · exact .inr hlt
      · exact .inr (by omega)

theorem mem_rounds_of_matches {inner : Regex} {bound : Nat}
    (hinner : ∀ start last, Matches inner start last → last ∈ run inner start)
    (hrounds : ∀ start last, start.rest.length ≤ bound → Matches (star inner) start last →
      last ∈ rounds (run inner) bound start)
    {start last : Place} (hbound : start.rest.length ≤ bound + 1)
    (h : Matches (star inner) start last) : last ∈ rounds (run inner) (bound + 1) start := by
  generalize hregex : star inner = regex at h
  induction h with
  | done place => simp [rounds]
  | @more inner' start middle last hfirst hrest _ ih =>
      obtain rfl : inner = inner' := Regex.star.inj hregex
      rcases hfirst.shortens with rfl | hlt
      · exact ih hbound rfl
      · rw [rounds, List.mem_cons, List.mem_flatMap]
        refine .inr ⟨middle, ?_, hrounds middle last (by omega) hrest⟩
        rw [List.mem_filter]
        exact ⟨hinner start middle hfirst, by simpa using hlt⟩
  | _ => cases hregex

theorem mem_rounds_iff {inner : Regex} (hinner : ∀ start last,
    last ∈ run inner start ↔ Matches inner start last) {bound : Nat} {start last : Place}
    (hbound : start.rest.length ≤ bound) :
    last ∈ rounds (run inner) bound start ↔ Matches (star inner) start last := by
  induction bound generalizing start last with
  | zero =>
      rw [rounds, List.mem_singleton]
      constructor
      · rintro rfl
        exact .done last
      · intro h
        rcases h.shortens with rfl | hlt
        · rfl
        · omega
  | succ bound ih =>
      constructor
      · intro h
        rw [rounds, List.mem_cons, List.mem_flatMap] at h
        rcases h with rfl | ⟨middle, hmiddle, hlast⟩
        · exact .done last
        · obtain ⟨hmem, hlt⟩ := List.mem_filter.mp hmiddle
          have hshort : middle.rest.length < start.rest.length := of_decide_eq_true hlt
          exact .more ((hinner start middle).mp hmem) ((ih (by omega)).mp hlast)
      · exact mem_rounds_of_matches (fun start last => (hinner start last).mpr)
          (fun start last hle => (ih hle).mpr) hbound

/-- The search follows every way to match. -/
theorem mem_run_iff {regex : Regex} {start last : Place} :
    last ∈ run regex start ↔ Matches regex start last := by
  induction regex generalizing start last with
  | nothing =>
      rw [run, List.mem_singleton]
      constructor
      · rintro rfl
        exact .nothing last
      · rintro ⟨⟩
        rfl
  | unit accept =>
      obtain ⟨before, rest⟩ := start
      constructor
      · intro h
        cases rest with
        | nil => cases h
        | cons head rest =>
            rw [run] at h
            split at h
            · rename_i haccept
              obtain rfl := List.mem_singleton.mp h
              exact .unit haccept
            · cases h
      · rintro ⟨⟩
        rename_i haccept
        simp [run, haccept]
  | assertion holds =>
      constructor
      · intro h
        rw [run] at h
        split at h
        · rename_i hholds
          obtain rfl := List.mem_singleton.mp h
          exact .assertion hholds
        · cases h
      · rintro ⟨⟩
        rename_i hholds
        simp [run, hholds]
  | seq first second ih ih' =>
      rw [run, List.mem_flatMap]
      constructor
      · rintro ⟨middle, hmiddle, hlast⟩
        exact .seq (ih.mp hmiddle) (ih'.mp hlast)
      · rintro ⟨⟩
        rename_i middle hfirst hsecond
        exact ⟨middle, ih.mpr hfirst, ih'.mpr hsecond⟩
  | either first second ih ih' =>
      rw [run, List.mem_append]
      constructor
      · rintro (h | h)
        · exact .left (ih.mp h)
        · exact .right (ih'.mp h)
      · rintro ⟨⟩
        · rename_i h
          exact .inl (ih.mpr h)
        · rename_i h
          exact .inr (ih'.mpr h)
  | star inner ih => exact mem_rounds_iff (fun start last => ih) (Nat.le_refl _)

theorem mem_places_iff {place : Place} {before : Option UInt16} {text : CodeUnits} :
    place ∈ places before text ↔ ∃ read, text = read ++ place.rest ∧
      place.before = (read.getLast?).or before := by
  induction text generalizing before with
  | nil =>
      rw [places, List.mem_singleton]
      constructor
      · rintro rfl
        exact ⟨[], rfl, rfl⟩
      · rintro ⟨read, htext, hbefore⟩
        obtain ⟨rfl, hrest⟩ := List.append_eq_nil_iff.mp htext.symm
        obtain ⟨placeBefore, placeRest⟩ := place
        obtain rfl : placeRest = [] := hrest
        obtain rfl : placeBefore = before := by simpa using hbefore
        rfl
  | cons head rest ih =>
      rw [places, List.mem_cons, ih]
      constructor
      · rintro (rfl | ⟨read, hrest, hbefore⟩)
        · exact ⟨[], rfl, rfl⟩
        · refine ⟨head :: read, by rw [hrest, List.cons_append], ?_⟩
          rw [hbefore]
          cases hread : read.getLast? <;> simp [List.getLast?_cons, hread]
      · rintro ⟨read, htext, hbefore⟩
        cases read with
        | nil =>
            obtain ⟨placeBefore, placeRest⟩ := place
            obtain rfl : head :: rest = placeRest := by simpa using htext
            obtain rfl : placeBefore = before := by simpa using hbefore
            exact .inl rfl
        | cons first read =>
            obtain ⟨rfl, hrest⟩ := List.cons.inj htext
            refine .inr ⟨read, hrest, ?_⟩
            rw [hbefore]
            cases hread : read.getLast? <;> simp [List.getLast?_cons, hread]

/-- A text passes a test when the expression matches somewhere in it. -/
theorem test_iff {regex : Regex} {text : CodeUnits} :
    test regex text = true ↔ ∃ read start last, text = read ++ start.rest ∧
      start.before = read.getLast? ∧ Matches regex start last := by
  rw [test, List.any_eq_true]
  constructor
  · rintro ⟨start, hstart, hrun⟩
    obtain ⟨read, htext, hbefore⟩ := mem_places_iff.mp hstart
    cases hlast : run regex start with
    | nil => simp [hlast] at hrun
    | cons last others =>
        have hmem : last ∈ run regex start := by simp [hlast]
        exact ⟨read, start, last, htext, by simpa using hbefore, mem_run_iff.mp hmem⟩
  · rintro ⟨read, start, last, htext, hbefore, hmatches⟩
    refine ⟨start, mem_places_iff.mpr ⟨read, htext, by simpa using hbefore⟩, ?_⟩
    have hmem := mem_run_iff.mpr hmatches
    cases hlast : run regex start with
    | nil => simp [hlast] at hmem
    | cons first others => rfl

end Regex

end MatchPlane.Library
