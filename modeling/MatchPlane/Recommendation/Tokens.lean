import Mathlib
import MatchPlane.Library.Occurrences
import MatchPlane.Recommendation.Identity

/-!
# Tokens

A text is cut into runs of letters and digits and into single ideographs in one pass, which
stops early where only so many tokens are asked for.
-/

namespace MatchPlane.Recommendation

open MatchPlane.Library

inductive AsciiTokenMode where
  | alphanumeric (minimumLength : Nat)
  | routerIdentifier
  deriving DecidableEq, Repr

inductive TokenOrder where
  | firstOccurrence
  | sorted
  deriving DecidableEq, Repr

structure TokenPolicy where
  maxTokens : Nat
  maxCharacters : Nat
  asciiMode : AsciiTokenMode
  order : TokenOrder
  deduplicateBeforeLimit : Bool
  deriving DecidableEq, Repr

namespace TokenPolicy

def router (maxTokens : Nat) : TokenPolicy :=
  ⟨maxTokens, 8000, .routerIdentifier, .firstOccurrence, true⟩

def storageCompatible (maxTokens : Nat) : TokenPolicy :=
  ⟨maxTokens, 64 * 1024, .alphanumeric 2, .sorted, false⟩

end TokenPolicy

/-! ## The scanner -/

def AsciiTokenMode.minimumLength : AsciiTokenMode → Nat
  | .alphanumeric minimumLength => minimumLength
  | .routerIdentifier => 1

def isRouterMark (character : Char) : Bool := character ∈ ['.', '_', ':', '-']

def isIdeograph (character : Char) : Bool :=
  0x3400 ≤ character.toNat ∧ character.toNat ≤ 0x9fff

/-- What a run may go on with. -/
def continues (mode : AsciiTokenMode) (character : Char) : Bool :=
  isAsciiAlphanumeric character || (mode = .routerIdentifier && isRouterMark character)

structure TokenScan where
  tokens : List String
  ascii : List Char
  deriving DecidableEq, Repr

/-- Whether there are as many tokens as asked for; no vector gets as long as `usize::MAX`. -/
def reaches (rawLimit : Option Nat) (tokens : List String) : Bool :=
  rawLimit.any fun limit => limit ≤ tokens.length

def flushAscii (scan : TokenScan) (mode : AsciiTokenMode) (rawLimit : Option Nat) : TokenScan :=
  if mode.minimumLength ≤ scan.ascii.length ∧ reaches rawLimit scan.tokens = false then
    ⟨scan.tokens ++ [String.ofList scan.ascii], []⟩
  else ⟨scan.tokens, []⟩

def scanCharacters (mode : AsciiTokenMode) (rawLimit : Option Nat) :
    List Char → TokenScan → TokenScan
  | [], scan => scan
  | character :: rest, scan =>
    if isAsciiAlphanumeric character then
      scanCharacters mode rawLimit rest { scan with ascii := scan.ascii ++ [character] }
    else if mode = .routerIdentifier ∧ scan.ascii ≠ [] ∧ isRouterMark character then
      scanCharacters mode rawLimit rest { scan with ascii := scan.ascii ++ [character] }
    else
      let flushed := flushAscii scan mode rawLimit
      if reaches rawLimit flushed.tokens then flushed
      else if isIdeograph character then
        let pushed := { flushed with tokens := flushed.tokens ++ [String.ofList [character]] }
        if reaches rawLimit pushed.tokens then pushed
        else scanCharacters mode rawLimit rest pushed
      else scanCharacters mode rawLimit rest flushed

/-- `retain` with a set of what has been seen. -/
def retainUnseen : List String → List String → List String
  | _, [] => []
  | seen, token :: rest =>
    if token ∈ seen then retainUnseen seen rest else token :: retainUnseen (token :: seen) rest

/-- `dedup` leaves out what repeats the token before it. -/
def dedup : List String → List String
  | [] => []
  | [token] => [token]
  | token :: next :: rest =>
    if token = next then dedup (next :: rest) else token :: dedup (next :: rest)

/-- `char::to_lowercase` may give more than one character. -/
def tokenize (toLowercase : Char → List Char) (value : String) (policy : TokenPolicy) :
    List String :=
  if policy.maxTokens = 0 ∨ policy.maxCharacters = 0 then []
  else
    let rawLimit := if policy.deduplicateBeforeLimit then none else some policy.maxTokens
    let characters := (value.toList.take policy.maxCharacters).flatMap toLowercase
    let scan := scanCharacters policy.asciiMode rawLimit characters ⟨[], []⟩
    let scan :=
      if reaches rawLimit scan.tokens then scan else flushAscii scan policy.asciiMode rawLimit
    let tokens :=
      match policy.order with
      | .firstOccurrence => retainUnseen [] scan.tokens
      | .sorted => dedup (scan.tokens.mergeSort (· ≤ ·))
    tokens.take policy.maxTokens

/-! ## The grammar -/

/-- Letters and digits, and what may stand between them. -/
structure IsRun (mode : AsciiTokenMode) (run : List Char) : Prop where
  start : ∀ character ∈ run.head?, isAsciiAlphanumeric character = true
  continued : ∀ character ∈ run, continues mode character = true

/-- A character that neither goes on with a run nor starts another one. -/
structure Ends (mode : AsciiTokenMode) (run : List Char) (stop : Char) : Prop where
  start : isAsciiAlphanumeric stop = false
  continued : run ≠ [] → continues mode stop = false

/-- A text read as maximal runs, empty ones included, and the characters between them. -/
structure Reading (mode : AsciiTokenMode) (text : List Char) where
  segments : List (List Char × Char)
  last : List Char
  spelled : text = (segments.flatMap fun segment => segment.1 ++ [segment.2]) ++ last
  runs : ∀ segment ∈ segments, IsRun mode segment.1 ∧ Ends mode segment.1 segment.2
  lastRun : IsRun mode last

/-- A run that is long enough. -/
def runToken (mode : AsciiTokenMode) (run : List Char) : List String :=
  if mode.minimumLength ≤ run.length then [String.ofList run] else []

def ideographToken (character : Char) : List String :=
  if isIdeograph character then [String.ofList [character]] else []

def segmentTokens (mode : AsciiTokenMode) (segments : List (List Char × Char)) : List String :=
  segments.flatMap fun segment => runToken mode segment.1 ++ ideographToken segment.2

/-- The long runs and the ideographs from left to right. -/
def Reading.listing {mode : AsciiTokenMode} {text : List Char} (reading : Reading mode text) :
    List String :=
  segmentTokens mode reading.segments ++ runToken mode reading.last

/-! ## Readings -/

section Readings

variable {mode : AsciiTokenMode} {text run : List Char} {character stop : Char}

theorem isRun_nil : IsRun mode [] := ⟨by simp, by simp⟩

theorem continues_of_alphanumeric (h : isAsciiAlphanumeric character = true) :
    continues mode character = true := by
  simp [continues, h]

/-- A run with one more character. -/
theorem IsRun.concat (hrun : IsRun mode run) (hcontinued : continues mode character = true)
    (hstart : run = [] → isAsciiAlphanumeric character = true) :
    IsRun mode (run ++ [character]) := by
  constructor
  · cases run with
    | nil => simpa using hstart rfl
    | cons first rest => simpa using hrun.start
  · intro other hother
    rcases List.mem_append.mp hother with hother | hother
    · exact hrun.continued other hother
    · rw [List.mem_singleton.mp hother]
      exact hcontinued

/-- Every text can be read. -/
theorem nonempty_reading (mode : AsciiTokenMode) (text : List Char) :
    Nonempty (Reading mode text) := by
  induction text using List.reverseRecOn with
  | nil => exact ⟨⟨[], [], rfl, by simp, isRun_nil⟩⟩
  | append_singleton text character ih =>
      obtain ⟨reading⟩ := ih
      by_cases hstart : isAsciiAlphanumeric character = true
      · exact ⟨⟨reading.segments, reading.last ++ [character], by
          rw [← List.append_assoc, ← reading.spelled], reading.runs,
          reading.lastRun.concat (continues_of_alphanumeric hstart) fun _ => hstart⟩⟩
      · by_cases hcontinued : reading.last ≠ [] ∧ continues mode character = true
        · exact ⟨⟨reading.segments, reading.last ++ [character], by
            rw [← List.append_assoc, ← reading.spelled], reading.runs,
            reading.lastRun.concat hcontinued.2 fun hempty => absurd hempty hcontinued.1⟩⟩
        · have hends : Ends mode reading.last character :=
            ⟨by simpa using hstart, fun hne => by simpa [hne] using hcontinued⟩
          refine ⟨⟨reading.segments ++ [(reading.last, character)], [], ?_, ?_, isRun_nil⟩⟩
          · rw [List.flatMap_append, List.append_nil, List.flatMap_singleton,
              ← List.append_assoc, ← reading.spelled]
          · intro segment hsegment
            rcases List.mem_append.mp hsegment with hsegment | hsegment
            · exact reading.runs segment hsegment
            · rw [List.mem_singleton.mp hsegment]
              exact ⟨reading.lastRun, hends⟩

end Readings

/-! ## What the scanner finds -/

section Scanning

variable {mode : AsciiTokenMode} {rawLimit : Option Nat} {tokens new : List String}
  {run ascii rest : List Char} {stop : Char}

/-- Only as many tokens as asked for. -/
def limited (rawLimit : Option Nat) (tokens : List String) : List String :=
  match rawLimit with
  | none => tokens
  | some limit => tokens.take limit

def finishScan (mode : AsciiTokenMode) (rawLimit : Option Nat) (scan : TokenScan) : List String :=
  if reaches rawLimit scan.tokens then scan.tokens else (flushAscii scan mode rawLimit).tokens

theorem limited_of_below (h : reaches rawLimit tokens = false) (hnew : new.length ≤ 1) :
    limited rawLimit (tokens ++ new) = tokens ++ new := by
  cases rawLimit with
  | none => rfl
  | some limit =>
      simp only [reaches, Option.any_some, decide_eq_false_iff_not, not_le] at h
      apply List.take_of_length_le
      rw [List.length_append]
      omega

/-- What comes after the last token asked for is left out. -/
theorem limited_of_reaches (h : reaches rawLimit tokens = false) (hnew : new.length ≤ 1)
    (hfull : reaches rawLimit (tokens ++ new) = true) (more : List String) :
    limited rawLimit (tokens ++ new ++ more) = tokens ++ new := by
  cases rawLimit with
  | none => cases hfull
  | some limit =>
      simp only [reaches, Option.any_some, decide_eq_false_iff_not, not_le] at h
      simp only [reaches, Option.any_some, decide_eq_true_eq] at hfull
      have hlength : (tokens ++ new).length = limit := by
        rw [List.length_append] at hfull ⊢
        omega
      rw [limited, ← hlength, List.take_left]

theorem length_runToken (mode : AsciiTokenMode) (run : List Char) :
    (runToken mode run).length ≤ 1 := by
  unfold runToken
  split
  · exact le_rfl
  · exact Nat.zero_le _

theorem length_ideographToken (character : Char) : (ideographToken character).length ≤ 1 := by
  unfold ideographToken
  split
  · exact le_rfl
  · exact Nat.zero_le _

theorem flushAscii_eq (h : reaches rawLimit tokens = false) :
    flushAscii ⟨tokens, run⟩ mode rawLimit = ⟨tokens ++ runToken mode run, []⟩ := by
  unfold flushAscii runToken
  by_cases hlong : mode.minimumLength ≤ run.length
  · simp [hlong, h]
  · simp [hlong]

/-- A run is read as a whole. -/
theorem scanCharacters_run (hrun : ∀ character ∈ run, continues mode character = true)
    (hstart : ascii = [] → ∀ character ∈ run.head?, isAsciiAlphanumeric character = true) :
    scanCharacters mode rawLimit (run ++ rest) ⟨tokens, ascii⟩ =
      scanCharacters mode rawLimit rest ⟨tokens, ascii ++ run⟩ := by
  induction run generalizing ascii with
  | nil => simp
  | cons character run ih =>
      rw [List.forall_mem_cons] at hrun
      have hnext := @ih (ascii ++ [character]) hrun.2 (by simp)
      rw [List.append_assoc, List.singleton_append] at hnext
      rw [List.cons_append, scanCharacters]
      split
      · exact hnext
      · next hother =>
        have hne : ascii ≠ [] := fun hempty => hother (hstart hempty character rfl)
        have hmark := hrun.1
        simp only [continues, hother, Bool.false_or, Bool.and_eq_true, decide_eq_true_eq] at hmark
        rw [if_pos ⟨hmark.1, hne, hmark.2⟩]
        exact hnext

theorem scanCharacters_stop (h : reaches rawLimit tokens = false) (hends : Ends mode run stop) :
    scanCharacters mode rawLimit (stop :: rest) ⟨tokens, run⟩ =
      let flushed := tokens ++ runToken mode run
      if reaches rawLimit flushed then ⟨flushed, []⟩
      else if reaches rawLimit (flushed ++ ideographToken stop) then
        ⟨flushed ++ ideographToken stop, []⟩
      else scanCharacters mode rawLimit rest ⟨flushed ++ ideographToken stop, []⟩ := by
  have hmark : ¬ (mode = .routerIdentifier ∧ run ≠ [] ∧ isRouterMark stop = true) := by
    rintro ⟨rfl, hne, hmark⟩
    have hnot := hends.continued hne
    simp [continues, hmark] at hnot
  rw [scanCharacters, if_neg (by simp [hends.start]), if_neg hmark, flushAscii_eq h]
  dsimp only
  split
  · rfl
  · next hfull =>
    unfold ideographToken
    split
    · rfl
    · rw [List.append_nil, if_neg hfull]

/-- The scanner finds the tokens of the segments, as far as they are asked for. -/
theorem finishScan_segments (segments : List (List Char × Char)) {last : List Char}
    (hruns : ∀ segment ∈ segments, IsRun mode segment.1 ∧ Ends mode segment.1 segment.2)
    (hlast : IsRun mode last) (h : reaches rawLimit tokens = false) :
    finishScan mode rawLimit (scanCharacters mode rawLimit
        ((segments.flatMap fun segment => segment.1 ++ [segment.2]) ++ last) ⟨tokens, []⟩) =
      limited rawLimit (tokens ++ (segmentTokens mode segments ++ runToken mode last)) := by
  induction segments generalizing tokens with
  | nil =>
      have hscan := @scanCharacters_run mode rawLimit tokens last [] [] hlast.continued
        fun _ => hlast.start
      rw [List.append_nil, List.nil_append] at hscan
      rw [List.flatMap_nil, List.nil_append, hscan, scanCharacters, finishScan,
        if_neg (by simp [h]), flushAscii_eq h]
      exact (limited_of_below h (length_runToken mode last)).symm
  | cons segment segments ih =>
      obtain ⟨run, stop⟩ := segment
      rw [List.forall_mem_cons] at hruns
      obtain ⟨hrun, hends⟩ := hruns.1
      rw [List.flatMap_cons, List.append_assoc, List.append_assoc,
        scanCharacters_run hrun.continued fun _ => hrun.start, List.nil_append,
        List.singleton_append, scanCharacters_stop h hends]
      have hsplit : tokens ++ (segmentTokens mode ((run, stop) :: segments) ++ runToken mode last) =
          tokens ++ runToken mode run ++ (ideographToken stop ++
            (segmentTokens mode segments ++ runToken mode last)) := by
        simp [segmentTokens]
      rw [hsplit]
      dsimp only
      split
      · next hfull =>
        rw [finishScan, if_pos hfull, limited_of_reaches h (length_runToken mode run) hfull]
      · next hbelow =>
        rw [Bool.not_eq_true] at hbelow
        split
        · next hfull =>
          rw [finishScan, if_pos hfull, ← List.append_assoc,
            limited_of_reaches hbelow (length_ideographToken stop) hfull]
        · next hstill =>
          rw [Bool.not_eq_true] at hstill
          rw [ih hruns.2 hstill, List.append_assoc]

end Scanning

/-! ## Distinct tokens -/

section Distinct

variable {tokens : List String}

theorem retainUnseen_eq (seen tokens : List String) :
    retainUnseen seen tokens = (tokens.filter fun token => token ∉ seen).eraseDups := by
  induction tokens generalizing seen with
  | nil => rfl
  | cons token rest ih =>
      rw [retainUnseen]
      split
      · next hseen => rw [ih, List.filter_cons_of_neg (by simp [hseen])]
      · next hseen =>
        rw [ih, List.filter_cons_of_pos (by simp [hseen]), List.eraseDups_cons, List.filter_filter]
        congr 2
        apply List.filter_congr
        intro other _
        simp [not_or, Bool.decide_and, beq_eq_decide]

theorem mem_dedup (tokens : List String) (token : String) :
    token ∈ dedup tokens ↔ token ∈ tokens := by
  fun_induction dedup tokens with
  | case1 => rfl
  | case2 => rfl
  | case3 next rest ih => simp [ih]
  | case4 first next rest hne ih => simp [ih]

/-- Without its repetitions a sorted list is strictly sorted. -/
theorem pairwise_dedup (h : tokens.Pairwise (· ≤ ·)) : (dedup tokens).Pairwise (· < ·) := by
  fun_induction dedup tokens with
  | case1 => exact .nil
  | case2 => exact List.pairwise_singleton _ _
  | case3 next rest ih => exact ih (List.pairwise_cons.mp h).2
  | case4 first next rest hne ih =>
      rw [List.pairwise_cons] at h ⊢
      refine ⟨?_, ih h.2⟩
      intro token htoken
      rw [mem_dedup] at htoken
      have hfirst : first < next := lt_of_le_of_ne (h.1 next (by simp)) hne
      rcases List.mem_cons.mp htoken with rfl | htoken
      · exact hfirst
      · exact hfirst.trans_le ((List.pairwise_cons.mp h.2).1 token htoken)

theorem dedup_mergeSort (tokens : List String) :
    dedup (tokens.mergeSort (· ≤ ·)) = tokens.toFinset.sort (· ≤ ·) := by
  have hsorted : (tokens.mergeSort (· ≤ ·)).Pairwise (· ≤ ·) := by
    have hpairwise : (tokens.mergeSort (· ≤ ·)).Pairwise
        fun first second => decide (first ≤ second) = true := by
      apply List.pairwise_mergeSort
      · intro first second third hfirst hsecond
        simp only [decide_eq_true_eq] at *
        exact hfirst.trans hsecond
      · intro first second
        simpa using le_total first second
    simpa using hpairwise
  have hstrict := pairwise_dedup hsorted
  have hmembers : (dedup (tokens.mergeSort (· ≤ ·))).toFinset = tokens.toFinset := by
    ext token
    simp [mem_dedup]
  rw [← hmembers]
  exact ((List.toFinset_sort (· ≤ ·) (hstrict.imp ne_of_lt)).mpr (hstrict.imp le_of_lt)).symm

end Distinct

/-- The tokens of a listing that a policy keeps. -/
def TokenPolicy.keep (policy : TokenPolicy) (listing : List String) : List String :=
  let asked := if policy.deduplicateBeforeLimit then listing else listing.take policy.maxTokens
  match policy.order with
  | .firstOccurrence => asked.eraseDups.take policy.maxTokens
  | .sorted => (asked.toFinset.sort (· ≤ ·)).take policy.maxTokens

/-- The tokens of a text are those that its grammar lists. -/
theorem tokenize_eq_keep (toLowercase : Char → List Char) (value : String) (policy : TokenPolicy)
    (reading : Reading policy.asciiMode
      ((value.toList.take policy.maxCharacters).flatMap toLowercase)) :
    tokenize toLowercase value policy =
      if policy.maxCharacters = 0 then [] else policy.keep reading.listing := by
  unfold tokenize
  by_cases hcharacters : policy.maxCharacters = 0
  · simp [hcharacters]
  by_cases htokens : policy.maxTokens = 0
  · rw [if_pos (.inl htokens), if_neg hcharacters, TokenPolicy.keep]
    cases policy.order with
    | firstOccurrence => simp [htokens]
    | sorted => simp [htokens]
  rw [if_neg (by simp [hcharacters, htokens]), if_neg hcharacters]
  have hbelow : reaches (if policy.deduplicateBeforeLimit then none else some policy.maxTokens)
      [] = false := by
    split
    · rfl
    · simpa [reaches] using htokens
  have hscan := finishScan_segments reading.segments reading.runs reading.lastRun hbelow
  rw [← reading.spelled, List.nil_append, finishScan, ← apply_ite TokenScan.tokens, ← Reading.listing] at hscan
  dsimp only
  simp only [hscan]
  have hlimited : limited (if policy.deduplicateBeforeLimit then none else some policy.maxTokens)
      reading.listing = if policy.deduplicateBeforeLimit then reading.listing
        else reading.listing.take policy.maxTokens := by
    cases policy.deduplicateBeforeLimit with
    | false => rfl
    | true => rfl
  rw [hlimited, TokenPolicy.keep]
  cases policy.order with
  | firstOccurrence => simp [retainUnseen_eq]
  | sorted => rw [dedup_mergeSort]

/-- Under the policy of the router the first distinct tokens are kept, and under the one of the
storage the distinct ones of the first tokens, in order. -/
theorem tokenize_grammar (toLowercase : Char → List Char) (value : String) :
    (∀ policy : TokenPolicy, Nonempty (Reading policy.asciiMode
      ((value.toList.take policy.maxCharacters).flatMap toLowercase))) ∧
    (∀ (policy : TokenPolicy) (reading : Reading policy.asciiMode
      ((value.toList.take policy.maxCharacters).flatMap toLowercase)),
      tokenize toLowercase value policy =
        if policy.maxCharacters = 0 then [] else policy.keep reading.listing) ∧
    (∀ (maxTokens : Nat) (reading : Reading .routerIdentifier
      ((value.toList.take 8000).flatMap toLowercase)),
      tokenize toLowercase value (.router maxTokens) =
        reading.listing.eraseDups.take maxTokens) ∧
    ∀ (maxTokens : Nat) (reading : Reading (.alphanumeric 2)
      ((value.toList.take (64 * 1024)).flatMap toLowercase)),
      tokenize toLowercase value (.storageCompatible maxTokens) =
        (reading.listing.take maxTokens).toFinset.sort (· ≤ ·) := by
  refine ⟨fun policy => nonempty_reading _ _, tokenize_eq_keep toLowercase value, ?_, ?_⟩
  · intro maxTokens reading
    exact tokenize_eq_keep toLowercase value (.router maxTokens) reading
  · intro maxTokens reading
    rw [tokenize_eq_keep toLowercase value (.storageCompatible maxTokens) reading]
    apply List.take_of_length_le
    rw [Finset.length_sort]
    exact (List.toFinset_card_le _).trans (List.length_take_le _ _)

end MatchPlane.Recommendation
