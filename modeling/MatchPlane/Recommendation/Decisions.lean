import Mathlib
import MatchPlane.Domain.Binary64
import MatchPlane.Domain.Json
import MatchPlane.Library.Occurrences
import MatchPlane.Recommendation.Identity

/-!
# Decisions of providers

A provider answers with identifiers of candidates.  Those that the caller has allowed are
selected, each once and in the order of the answer; every other one is rejected for a
reason, and reported as long as there is room for it.
-/

namespace MatchPlane.Recommendation

open MatchPlane.Library

/-- `MATCHING_ADVISORY_NOTICE`. -/
def matchingAdvisoryNotice : String :=
  "Matching results are recommendations only; they grant no authorization, contact consent, " ++
    "payment authority, contractual acceptance, or other right."

inductive DecisionSource where
  | provider
  | deterministicFallback
  deriving DecidableEq, Repr

inductive RejectionReason where
  | unknownCandidate
  | duplicateCandidate
  | invalidCandidateId
  deriving DecidableEq, Repr

structure RejectedSelection where
  index : Nat
  slug : String
  truncated : Bool
  reason : RejectionReason
  deriving DecidableEq, Repr

structure DecisionPolicy where
  maxAllowedCandidates : Nat
  maxSelectedEntries : Nat
  maxRejections : Nat
  maxRationaleCharacters : Nat
  maxObservedSlugCharacters : Nat
  deriving DecidableEq, Repr

def DecisionPolicy.default : DecisionPolicy := ⟨32, 32, 32, 1000, maxCandidateIdCharacters⟩

structure ProviderDecisionInput (F : Type) where
  selectedSlugs : List String
  rationale : Option String
  confidence : Option F

structure RouteDecision (F : Type) where
  selectedSlugs : List String
  source : DecisionSource
  rationale : String
  confidence : Option F
  degraded : Bool
  rejected : List RejectedSelection
  rejectionOverflow : Nat
  advisory : String

/-! ## Parsing -/

def selectionsOf (value : Json) : Except MatchingError (List Json) :=
  match value with
  | .object fields =>
      match fields.lookup "selectedSlugs" with
      | some (.array selected) => .ok selected
      | _ => .error .missingSelections
  | _ => .error .decisionNotObject

/-- The entries from an index on; each has to be a valid identifier. -/
def parseSelections : Nat → List Json → Except MatchingError (List String)
  | _, [] => .ok []
  | index, value :: rest =>
      match value.asStr with
      | none => .error (.selectionNotString index)
      | some slug =>
          match validateCandidateId slug with
          | .error reason => .error (.invalidCandidateId index reason)
          | .ok _ => (parseSelections (index + 1) rest).map (slug :: ·)

section Numbers

variable {F : Type} [Binary64 F]

/-- `Value::as_f64`. -/
def asF64 : Json → Option F
  | .integer value => some (Binary64.ofInt value)
  | .float literal => some (Binary64.parse literal)
  | _ => none

def parseProviderDecision (value : Json) (policy : DecisionPolicy) :
    Except MatchingError (ProviderDecisionInput F) := do
  let selected ← selectionsOf value
  if policy.maxSelectedEntries < selected.length then
    .error (.tooManySelections selected.length policy.maxSelectedEntries)
  else
    let selectedSlugs ← parseSelections 0 selected
    pure {
      selectedSlugs
      rationale := (value.text "rationale").map (boundedTrim · policy.maxRationaleCharacters)
      confidence := (value.get "confidence").bind asF64
    }

theorem parseSelections_valid {index : Nat} {values : List Json} {slugs : List String}
    (h : parseSelections index values = .ok slugs) :
    slugs.length = values.length ∧ ∀ slug ∈ slugs, isValidId slug = true := by
  induction values generalizing index slugs with
  | nil =>
      cases h
      simp
  | cons value rest ih =>
      rw [parseSelections] at h
      split at h
      case h_1 => cases h
      case h_2 slug _ =>
        split at h
        case h_1 => cases h
        case h_2 hvalid =>
          cases hrest : parseSelections (index + 1) rest with
          | error error =>
              rw [hrest] at h
              cases h
          | ok others =>
              rw [hrest] at h
              cases h
              obtain ⟨hlength, hothers⟩ := ih hrest
              have hslug : isValidId slug = true := isValidId_iff_eq_ok.mpr hvalid
              constructor
              · rw [List.length_cons, List.length_cons, hlength]
              · simpa [hslug] using hothers

/-- What has been parsed is within the limit and has valid identifiers only. -/
theorem parseProviderDecision_valid {value : Json} {policy : DecisionPolicy}
    {input : ProviderDecisionInput F} (h : parseProviderDecision value policy = .ok input) :
    input.selectedSlugs.length ≤ policy.maxSelectedEntries ∧
      ∀ slug ∈ input.selectedSlugs, isValidId slug = true := by
  unfold parseProviderDecision at h
  cases hselected : selectionsOf value with
  | error error =>
      rw [hselected] at h
      cases h
  | ok selected =>
      rw [hselected] at h
      simp only [bind, Except.bind] at h
      split at h
      · cases h
      · cases hslugs : parseSelections 0 selected with
        | error error =>
            rw [hslugs] at h
            cases h
        | ok slugs =>
            rw [hslugs] at h
            cases h
            have hvalid := parseSelections_valid hslugs
            exact ⟨by simp only [hvalid.1]; omega, hvalid.2⟩

end Numbers

/-! ## Normalization -/

/-- What the loop over the entries has found so far. -/
structure Tally where
  seen : Finset String
  selectedSlugs : List String
  rejected : List RejectedSelection
  rejectionOverflow : Nat

def Tally.empty : Tally := ⟨∅, [], [], 0⟩

section Loop

variable (policy : DecisionPolicy) (allowed : List String)

/-- Why an entry is rejected, if it is. -/
def rejectionReason (seen : Finset String) (slug : String) : Option RejectionReason :=
  if isValidId slug = false then some .invalidCandidateId
  else if slug ∉ allowed then some .unknownCandidate
  else if slug ∈ seen then some .duplicateCandidate
  else none

def rejection (index : Nat) (slug : String) (reason : RejectionReason) : RejectedSelection :=
  let preview := truncateCharsObserved slug policy.maxObservedSlugCharacters
  ⟨index, preview.1, preview.2, reason⟩

/-- One more entry of the answer. -/
def Tally.take (tally : Tally) (entry : String × Nat) : Tally :=
  match rejectionReason allowed tally.seen entry.1 with
  | none =>
      { tally with
        seen := insert entry.1 tally.seen
        selectedSlugs := tally.selectedSlugs ++ [entry.1] }
  | some reason =>
      if tally.rejected.length < policy.maxRejections then
        { tally with
          rejected := tally.rejected ++ [rejection policy entry.2 entry.1 reason] }
      else { tally with rejectionOverflow := tally.rejectionOverflow + 1 }

def tallyOf (slugs : List String) : Tally :=
  slugs.zipIdx.foldl (Tally.take policy allowed) .empty

end Loop

section Normalization

variable {F : Type} [Binary64 F]

def defaultRationale : String := "Provider selected from the caller-authorized candidate set."

def normalizeProviderDecision (input : ProviderDecisionInput F) (allowedSlugs : List String)
    (policy : DecisionPolicy) : Except MatchingError (RouteDecision F) :=
  if policy.maxSelectedEntries < input.selectedSlugs.length then
    .error (.tooManySelections input.selectedSlugs.length policy.maxSelectedEntries)
  else if policy.maxAllowedCandidates < allowedSlugs.length then
    .error (.tooManyCandidates allowedSlugs.length policy.maxAllowedCandidates)
  else
    let allowed := allowedSlugs.filter isValidId
    let tally := tallyOf policy allowed input.selectedSlugs
    .ok {
      selectedSlugs := tally.selectedSlugs
      source := .provider
      rationale := input.rationale.elim defaultRationale
        (boundedTrim · policy.maxRationaleCharacters)
      confidence := (input.confidence.filter Binary64.isFinite).map
        (Binary64.clamp · (Binary64.ofInt 0) (Binary64.ofInt 1))
      degraded := false
      rejected := tally.rejected
      rejectionOverflow := tally.rejectionOverflow
      advisory := matchingAdvisoryNotice
    }

end Normalization

/-! ## What is selected and rejected -/

section Specification

variable (policy : DecisionPolicy) (allowedSlugs : List String)

/-- The entry is a valid identifier that the caller has allowed. -/
def isAcceptable (slug : String) : Bool := isValidId slug ∧ slug ∈ allowedSlugs

/-- Why an entry is rejected after those that came before it. -/
def reasonAfter (before : List String) (slug : String) : Option RejectionReason :=
  if isValidId slug = false then some .invalidCandidateId
  else if slug ∉ allowedSlugs then some .unknownCandidate
  else if slug ∈ before then some .duplicateCandidate
  else none

/-- The entries that are not selected, with their indices and reasons. -/
def rejections (slugs : List String) : List RejectedSelection :=
  slugs.zipIdx.filterMap fun entry =>
    (reasonAfter allowedSlugs (slugs.take entry.2) entry.1).map (rejection policy entry.2 entry.1)

/-- What the loop has found after some entries. -/
structure Tally.Of (slugs : List String) (tally : Tally) : Prop where
  seen : ∀ slug, slug ∈ tally.seen ↔ slug ∈ slugs ∧ isAcceptable allowedSlugs slug = true
  selected : tally.selectedSlugs = (slugs.filter (isAcceptable allowedSlugs)).eraseDups
  rejected : tally.rejected = (rejections policy allowedSlugs slugs).take policy.maxRejections
  overflow : tally.rejectionOverflow =
    (rejections policy allowedSlugs slugs).length - policy.maxRejections
  total : tally.selectedSlugs.length + (rejections policy allowedSlugs slugs).length =
    slugs.length

variable {policy allowedSlugs} {slugs : List String} {slug : String} {tally : Tally}

theorem rejections_concat (slugs : List String) (slug : String) :
    rejections policy allowedSlugs (slugs ++ [slug]) = rejections policy allowedSlugs slugs ++
      ((reasonAfter allowedSlugs slugs slug).map (rejection policy slugs.length slug)).toList := by
  unfold rejections
  rw [List.zipIdx_append, List.filterMap_append]
  congr 1
  · apply List.filterMap_congr
    intro entry hentry
    have hindex := (List.mem_zipIdx' hentry).1
    rw [List.take_append_of_le_length (by omega)]
  · rw [List.zipIdx_singleton, List.filterMap_cons, List.filterMap_nil, Nat.zero_add,
      List.take_left]
    cases reasonAfter allowedSlugs slugs slug with
    | none => rfl
    | some reason => rfl

/-- The reasons of the loop are those after the entries before. -/
theorem Tally.Of.reason (h : tally.Of policy allowedSlugs slugs) (slug : String) :
    rejectionReason (allowedSlugs.filter isValidId) tally.seen slug =
      reasonAfter allowedSlugs slugs slug := by
  unfold rejectionReason reasonAfter
  by_cases hvalid : isValidId slug = true
  · by_cases hallowed : slug ∈ allowedSlugs
    · have hseen : slug ∈ tally.seen ↔ slug ∈ slugs := by
        simp [h.seen, isAcceptable, hvalid, hallowed]
      simp [hvalid, hallowed, hseen]
    · simp [hvalid, hallowed]
  · simp [hvalid]

theorem isAcceptable_iff_reasonAfter :
    reasonAfter allowedSlugs slugs slug = none ↔
      isAcceptable allowedSlugs slug = true ∧ slug ∉ slugs := by
  unfold reasonAfter isAcceptable
  by_cases hvalid : isValidId slug = true
  · by_cases hallowed : slug ∈ allowedSlugs
    · by_cases hbefore : slug ∈ slugs
      · simp [hvalid, hallowed, hbefore]
      · simp [hvalid, hallowed, hbefore]
    · simp [hvalid, hallowed]
  · simp [hvalid]

theorem Tally.Of.empty : Tally.empty.Of policy allowedSlugs [] := by
  constructor <;> simp [Tally.empty, rejections]

/-- One more entry. -/
theorem Tally.Of.take (h : tally.Of policy allowedSlugs slugs) (slug : String) :
    (tally.take policy (allowedSlugs.filter isValidId) (slug, slugs.length)).Of policy
      allowedSlugs (slugs ++ [slug]) := by
  have hconcat := @rejections_concat policy allowedSlugs slugs slug
  unfold Tally.take
  simp only [h.reason slug]
  cases hreason : reasonAfter allowedSlugs slugs slug with
  | none =>
      obtain ⟨hacceptable, hnew⟩ := isAcceptable_iff_reasonAfter.mp hreason
      rw [hreason, Option.map_none, Option.toList_none, List.append_nil] at hconcat
      have hfresh : slug ∉ slugs.filter (isAcceptable allowedSlugs) := by
        simp [hnew]
      have hselected : (slugs ++ [slug]).filter (isAcceptable allowedSlugs) =
          slugs.filter (isAcceptable allowedSlugs) ++ [slug] := by
        simp [hacceptable]
      constructor
      · intro other
        simp only [Finset.mem_insert, h.seen, List.mem_append, List.mem_singleton]
        constructor
        · rintro (rfl | ⟨hmem, hother⟩)
          · exact ⟨.inr rfl, hacceptable⟩
          · exact ⟨.inl hmem, hother⟩
        · rintro ⟨hmem | rfl, hother⟩
          · exact .inr ⟨hmem, hother⟩
          · exact .inl rfl
      · rw [hselected, eraseDups_concat_of_not_mem hfresh, h.selected]
      · rw [hconcat]
        exact h.rejected
      · rw [hconcat]
        exact h.overflow
      · have htotal := h.total
        rw [hconcat]
        simp only [List.length_append, List.length_singleton]
        omega
  | some reason =>
      rw [hreason, Option.map_some, Option.toList_some] at hconcat
      have hrefused : ¬(isAcceptable allowedSlugs slug = true ∧ slug ∉ slugs) := by
        rw [← isAcceptable_iff_reasonAfter, hreason]
        simp
      have hseen : ∀ other, other ∈ tally.seen ↔
          other ∈ slugs ++ [slug] ∧ isAcceptable allowedSlugs other = true := by
        intro other
        rw [h.seen, List.mem_append, List.mem_singleton]
        constructor
        · rintro ⟨hmem, hother⟩
          exact ⟨.inl hmem, hother⟩
        · rintro ⟨hmem | rfl, hother⟩
          · exact ⟨hmem, hother⟩
          · exact ⟨by_contra fun hnew => hrefused ⟨hother, hnew⟩, hother⟩
      have hselected : ((slugs ++ [slug]).filter (isAcceptable allowedSlugs)).eraseDups =
          (slugs.filter (isAcceptable allowedSlugs)).eraseDups := by
        by_cases hacceptable : isAcceptable allowedSlugs slug = true
        · have hbefore : slug ∈ slugs := by_contra fun hnew => hrefused ⟨hacceptable, hnew⟩
          rw [List.filter_append, List.filter_singleton, hacceptable]
          exact eraseDups_concat_of_mem (List.mem_filter.mpr ⟨hbefore, hacceptable⟩)
        · simp [hacceptable]
      have hlength : tally.rejected.length = min policy.maxRejections
          (rejections policy allowedSlugs slugs).length := by
        rw [h.rejected, List.length_take]
      have htotal := h.total
      have hoverflow := h.overflow
      dsimp only
      split
      case isTrue hroom =>
        have hshort : (rejections policy allowedSlugs slugs).length < policy.maxRejections := by
          omega
        constructor
        · exact hseen
        · rw [hselected]
          exact h.selected
        · simp only [hconcat, h.rejected]
          rw [List.take_of_length_le (by omega), List.take_of_length_le]
          simp only [List.length_append, List.length_singleton]
          omega
        · rw [hconcat]
          simp only [List.length_append, List.length_singleton]
          omega
        · rw [hconcat]
          simp only [List.length_append, List.length_singleton]
          omega
      case isFalse hroom =>
        have hlong : policy.maxRejections ≤ (rejections policy allowedSlugs slugs).length := by
          omega
        constructor
        · exact hseen
        · rw [hselected]
          exact h.selected
        · rw [hconcat, List.take_append_of_le_length hlong]
          exact h.rejected
        · rw [hconcat]
          simp only [List.length_append, List.length_singleton]
          omega
        · rw [hconcat]
          simp only [List.length_append, List.length_singleton]
          omega

/-- The loop over all entries. -/
theorem tally_of (policy : DecisionPolicy) (allowedSlugs slugs : List String) :
    (tallyOf policy (allowedSlugs.filter isValidId) slugs).Of policy allowedSlugs slugs := by
  induction slugs using List.reverseRecOn with
  | nil => exact .empty
  | append_singleton slugs slug ih =>
      have hstep := ih.take slug
      unfold tallyOf at hstep ⊢
      rw [List.zipIdx_append, List.foldl_append]
      simpa using hstep

end Specification

section Selection

variable {F : Type} [Binary64 F]

theorem normalizeProviderDecision_of_le {input : ProviderDecisionInput F}
    {allowedSlugs : List String} {policy : DecisionPolicy}
    (hselected : input.selectedSlugs.length ≤ policy.maxSelectedEntries)
    (hallowed : allowedSlugs.length ≤ policy.maxAllowedCandidates) :
    ∃ decision, normalizeProviderDecision input allowedSlugs policy = .ok decision ∧
      decision.selectedSlugs =
        (tallyOf policy (allowedSlugs.filter isValidId) input.selectedSlugs).selectedSlugs ∧
      decision.rejected =
        (tallyOf policy (allowedSlugs.filter isValidId) input.selectedSlugs).rejected ∧
      decision.rejectionOverflow =
        (tallyOf policy (allowedSlugs.filter isValidId) input.selectedSlugs).rejectionOverflow := by
  unfold normalizeProviderDecision
  rw [if_neg (by omega), if_neg (by omega)]
  exact ⟨_, rfl, rfl, rfl, rfl⟩

/-- A decision within the limits selects the first occurrences of what is acceptable, and
accounts for every entry; more entries change nothing before them. -/
theorem normalizeProviderDecision_accounts (input : ProviderDecisionInput F)
    (allowedSlugs : List String) (policy : DecisionPolicy)
    (hselected : input.selectedSlugs.length ≤ policy.maxSelectedEntries)
    (hallowed : allowedSlugs.length ≤ policy.maxAllowedCandidates) :
    ∃ decision, normalizeProviderDecision input allowedSlugs policy = .ok decision ∧
      decision.selectedSlugs =
        (input.selectedSlugs.filter (isAcceptable allowedSlugs)).eraseDups ∧
      decision.rejected =
        (rejections policy allowedSlugs input.selectedSlugs).take policy.maxRejections ∧
      decision.rejectionOverflow =
        (rejections policy allowedSlugs input.selectedSlugs).length - policy.maxRejections ∧
      decision.selectedSlugs.length + decision.rejected.length + decision.rejectionOverflow =
        input.selectedSlugs.length ∧
      ∀ more longer,
        normalizeProviderDecision
          { input with selectedSlugs := input.selectedSlugs ++ more } allowedSlugs policy =
            .ok longer →
        decision.selectedSlugs <+: longer.selectedSlugs := by
  obtain ⟨decision, hdecision, hslugs, hrejected, hoverflow⟩ :=
    normalizeProviderDecision_of_le hselected hallowed
  have htally := tally_of policy allowedSlugs input.selectedSlugs
  have hcount : decision.rejected.length + decision.rejectionOverflow =
      (rejections policy allowedSlugs input.selectedSlugs).length := by
    rw [hrejected, hoverflow, htally.rejected, htally.overflow, List.length_take]
    omega
  have htotal := htally.total
  refine ⟨decision, hdecision, hslugs.trans htally.selected, hrejected.trans htally.rejected,
    hoverflow.trans htally.overflow, by rw [hslugs]; omega, ?_⟩
  intro more longer hlonger
  have hfits : (input.selectedSlugs ++ more).length ≤ policy.maxSelectedEntries := by
    by_contra hlong
    rw [normalizeProviderDecision, if_pos (by simpa using hlong)] at hlonger
    cases hlonger
  obtain ⟨other, hother, hotherSlugs, _⟩ :=
    @normalizeProviderDecision_of_le F _
      { input with selectedSlugs := input.selectedSlugs ++ more } allowedSlugs policy hfits hallowed
  obtain rfl : other = longer := Except.ok.inj (hother.symm.trans hlonger)
  rw [hslugs, hotherSlugs, htally.selected, (tally_of policy allowedSlugs _).selected,
    List.filter_append]
  exact eraseDups_prefix _ _

/-- Of five entries two are selected. -/
theorem normalizeProviderDecision_accounts_five :
    ∃ decision, @normalizeProviderDecision Rat exactNumbers
        ⟨["b", "x!", "a", "b", "c"], none, none⟩ ["a", "b"] .default = .ok decision ∧
      decision.selectedSlugs = ["b", "a"] ∧
      decision.rejected.map (fun rejected => (rejected.index, rejected.reason)) =
        [(1, .invalidCandidateId), (3, .duplicateCandidate), (4, .unknownCandidate)] := by
  obtain ⟨decision, hdecision, hselected, hrejected, _⟩ :=
    @normalizeProviderDecision_accounts Rat exactNumbers
      ⟨["b", "x!", "a", "b", "c"], none, none⟩ ["a", "b"] .default (by decide) (by decide)
  refine ⟨decision, hdecision, ?_, ?_⟩
  · rw [hselected]
    decide +kernel
  · rw [hrejected]
    decide +kernel

end Selection

end MatchPlane.Recommendation
