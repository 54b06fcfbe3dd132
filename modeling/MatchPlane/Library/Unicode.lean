import Mathlib

/-!
# UTF-8 and UTF-16

Texts as lists of UTF-16 code units, which may have a surrogate without its other half,
and the bytes of their characters.  What is no character reads as the replacement one.
-/

namespace MatchPlane.Library

abbrev CodeUnits := List UInt16

instance : LawfulBEq CodeUnits := inferInstance

/-- A fact about the members of a list that is checked member by member; the type of the
members is finite, but too large to go through. -/
theorem forall_mem_of_all {α : Type} {p : α → Prop} [DecidablePred p] {list : List α}
    (h : list.all (fun member => decide (p member)) = true) : ∀ member ∈ list, p member := by
  simpa using h

def replacement : Char := '\uFFFD'

/-! ## UTF-16 -/

def isLead (unit : UInt16) : Bool := 0xD800 ≤ unit.toNat ∧ unit.toNat < 0xDC00

def isTrail (unit : UInt16) : Bool := 0xDC00 ≤ unit.toNat ∧ unit.toNat < 0xE000

def unitsOfChar (character : Char) : CodeUnits :=
  if character.toNat < 0x10000 then [UInt16.ofNat character.toNat]
  else [UInt16.ofNat (0xD800 + (character.toNat - 0x10000) / 0x400),
    UInt16.ofNat (0xDC00 + (character.toNat - 0x10000) % 0x400)]

def unitsOfChars (characters : List Char) : CodeUnits := characters.flatMap unitsOfChar

/-- A unit that is not half of a character. -/
def charOfUnit (unit : UInt16) : Char :=
  if isLead unit || isTrail unit then replacement else Char.ofNat unit.toNat

def charOfPair (lead trail : UInt16) : Char :=
  Char.ofNat (0x10000 + (lead.toNat - 0xD800) * 0x400 + (trail.toNat - 0xDC00))

def charsOfUnits : CodeUnits → List Char
  | [] => []
  | [unit] => [charOfUnit unit]
  | unit :: next :: rest =>
      if isLead unit && isTrail next then charOfPair unit next :: charsOfUnits rest
      else charOfUnit unit :: charsOfUnits (next :: rest)

/-- Every surrogate has its other half. -/
def WellFormed (text : CodeUnits) : Prop := ∃ characters, text = unitsOfChars characters

theorem toNat_cases (character : Char) :
    character.toNat < 0xD800 ∨ (0xE000 ≤ character.toNat ∧ character.toNat < 0x110000) := by
  have hvalid : character.toNat < 0xD800 ∨ (0xDFFF < character.toNat ∧ character.toNat < 0x110000) :=
    character.valid
  omega

theorem toNat_unit {number : Nat} (h : number < 0x10000) :
    (UInt16.ofNat number).toNat = number := UInt16.toNat_ofNat_of_lt' h

theorem charOfUnit_ofNat {character : Char} (h : character.toNat < 0x10000) :
    charOfUnit (UInt16.ofNat character.toNat) = character := by
  have hcases := toNat_cases character
  have hlead : isLead (UInt16.ofNat character.toNat) = false := by
    simp only [isLead, toNat_unit h, decide_eq_false_iff_not]
    omega
  have htrail : isTrail (UInt16.ofNat character.toNat) = false := by
    simp only [isTrail, toNat_unit h, decide_eq_false_iff_not]
    omega
  rw [charOfUnit, hlead, htrail, toNat_unit h]
  exact Char.ofNat_toNat character

theorem charsOfUnits_unit {unit : UInt16} (h : isLead unit = false) (rest : CodeUnits) :
    charsOfUnits (unit :: rest) = charOfUnit unit :: charsOfUnits rest := by
  cases rest with
  | nil => rfl
  | cons next rest => simp [charsOfUnits, h]

theorem charsOfUnits_cons (character : Char) (rest : CodeUnits) :
    charsOfUnits (unitsOfChar character ++ rest) = character :: charsOfUnits rest := by
  have hcases := toNat_cases character
  unfold unitsOfChar
  split
  case isTrue h =>
    rw [List.singleton_append, charsOfUnits_unit, charOfUnit_ofNat h]
    simp only [isLead, toNat_unit h, decide_eq_false_iff_not]
    omega
  case isFalse h =>
    have hlead : 0xD800 + (character.toNat - 0x10000) / 0x400 < 0x10000 := by omega
    have htrail : 0xDC00 + (character.toNat - 0x10000) % 0x400 < 0x10000 := by omega
    have hpair : charOfPair (UInt16.ofNat (0xD800 + (character.toNat - 0x10000) / 0x400))
        (UInt16.ofNat (0xDC00 + (character.toNat - 0x10000) % 0x400)) = character := by
      rw [charOfPair, toNat_unit hlead, toNat_unit htrail]
      have hnumber : 0x10000 + (0xD800 + (character.toNat - 0x10000) / 0x400 - 0xD800) * 0x400 +
          (0xDC00 + (character.toNat - 0x10000) % 0x400 - 0xDC00) = character.toNat := by omega
      rw [hnumber]
      exact Char.ofNat_toNat character
    rw [List.cons_append, List.singleton_append, charsOfUnits, hpair, if_pos]
    simp only [isLead, isTrail, toNat_unit hlead, toNat_unit htrail, Bool.and_eq_true,
      decide_eq_true_eq]
    omega

/-- The characters of a text of characters are these. -/
theorem charsOfUnits_unitsOfChars (characters : List Char) :
    charsOfUnits (unitsOfChars characters) = characters := by
  induction characters with
  | nil => rfl
  | cons character rest ih =>
      rw [unitsOfChars, List.flatMap_cons, charsOfUnits_cons]
      exact congrArg (character :: ·) ih

theorem wellFormed_nil : WellFormed [] := ⟨[], rfl⟩

theorem WellFormed.append {first second : CodeUnits} (h : WellFormed first)
    (h' : WellFormed second) : WellFormed (first ++ second) := by
  obtain ⟨characters, rfl⟩ := h
  obtain ⟨others, rfl⟩ := h'
  exact ⟨characters ++ others, by simp [unitsOfChars]⟩

theorem wellFormed_singleton {unit : UInt16} (h : isLead unit = false) (h' : isTrail unit = false) :
    WellFormed [unit] := by
  simp only [isLead, isTrail, decide_eq_false_iff_not] at h h'
  have hvalid : unit.toNat.isValidChar := by
    have hlt := unit.toNat_lt
    unfold Nat.isValidChar
    omega
  have hnumber : (Char.ofNat unit.toNat).toNat = unit.toNat := by
    rw [Char.ofNat, dif_pos hvalid]
    rfl
  refine ⟨[Char.ofNat unit.toNat], ?_⟩
  simp only [unitsOfChars, List.flatMap_cons, List.flatMap_nil, List.append_nil, unitsOfChar,
    hnumber]
  rw [if_pos unit.toNat_lt, UInt16.ofNat_toNat]

theorem wellFormed_pair {lead trail : UInt16} (h : isLead lead = true) (h' : isTrail trail = true) :
    WellFormed [lead, trail] := by
  simp only [isLead, isTrail, decide_eq_true_eq] at h h'
  have hvalid : (0x10000 + (lead.toNat - 0xD800) * 0x400 + (trail.toNat - 0xDC00)).isValidChar := by
    unfold Nat.isValidChar
    omega
  have hnumber : (charOfPair lead trail).toNat =
      0x10000 + (lead.toNat - 0xD800) * 0x400 + (trail.toNat - 0xDC00) := by
    rw [charOfPair, Char.ofNat, dif_pos hvalid]
    rfl
  refine ⟨[charOfPair lead trail], ?_⟩
  simp only [unitsOfChars, List.flatMap_cons, List.flatMap_nil, List.append_nil, unitsOfChar,
    hnumber]
  have hlead : 0xD800 + (0x10000 + (lead.toNat - 0xD800) * 0x400 + (trail.toNat - 0xDC00) -
      0x10000) / 0x400 = lead.toNat := by omega
  have htrail : 0xDC00 + (0x10000 + (lead.toNat - 0xD800) * 0x400 + (trail.toNat - 0xDC00) -
      0x10000) % 0x400 = trail.toNat := by omega
  rw [if_neg (by omega), hlead, htrail, UInt16.ofNat_toNat, UInt16.ofNat_toNat]

/-! ## UTF-8 -/

def bytesOfChars (characters : List Char) : List UInt8 := characters.flatMap String.utf8EncodeChar

/-- A character of which bytes are still missing, and which values the next one may have. -/
structure Partial where
  needed : Nat
  point : Nat
  lower : Nat
  upper : Nat
  deriving DecidableEq, Repr

def Partial.none : Partial := ⟨0, 0, 0x80, 0xBF⟩

/-- What is read after a byte; an error reads as no character. -/
abbrev Read := List (Option Char) × Partial

/-- A byte between two characters. -/
def readFirst (byte : UInt8) : Read :=
  let number := byte.toNat
  if number < 0x80 then ([some (Char.ofNat number)], .none)
  else if 0xC2 ≤ number ∧ number < 0xE0 then ([], ⟨1, number - 0xC0, 0x80, 0xBF⟩)
  else if 0xE0 ≤ number ∧ number < 0xF0 then
    ([], ⟨2, number - 0xE0, if number = 0xE0 then 0xA0 else 0x80,
      if number = 0xED then 0x9F else 0xBF⟩)
  else if 0xF0 ≤ number ∧ number < 0xF5 then
    ([], ⟨3, number - 0xF0, if number = 0xF0 then 0x90 else 0x80,
      if number = 0xF4 then 0x8F else 0xBF⟩)
  else ([none], .none)

/-- A byte that does not go on with a character ends it, and is read again. -/
def readNext (pending : Partial) (byte : UInt8) : Read :=
  if pending.needed = 0 then readFirst byte
  else if pending.lower ≤ byte.toNat ∧ byte.toNat ≤ pending.upper then
    let point := pending.point * 64 + (byte.toNat - 0x80)
    if pending.needed = 1 then ([some (Char.ofNat point)], .none)
    else ([], ⟨pending.needed - 1, point, 0x80, 0xBF⟩)
  else (none :: (readFirst byte).1, (readFirst byte).2)

def readBytes (pending : Partial) : List UInt8 → Read
  | [] => ([], pending)
  | byte :: rest =>
      let next := readNext pending byte
      (next.1 ++ (readBytes next.2 rest).1, (readBytes next.2 rest).2)

/-- What is read from all bytes; a character that is not complete is an error. -/
def readAll (bytes : List UInt8) : List (Option Char) :=
  let read := readBytes .none bytes
  read.1 ++ if read.2.needed = 0 then [] else [none]

/-- The characters, with replacement ones for the errors. -/
def charsOfBytes (bytes : List UInt8) : List Char :=
  (readAll bytes).map fun character => character.getD replacement

/-- The characters, if there are no errors. -/
def charsOfBytes? (bytes : List UInt8) : Option (List Char) := (readAll bytes).mapM id

/-- There are no errors, but bytes may be missing in the end. -/
def isCut (bytes : List UInt8) : Bool := (readBytes .none bytes).1.all Option.isSome

theorem toNat_byte {number : Nat} (h : number < 0x100) :
    (UInt8.ofNat number).toNat = number := UInt8.toNat_ofNat_of_lt' h

theorem readBytes_cons (pending : Partial) (byte : UInt8) (rest : List UInt8) :
    readBytes pending (byte :: rest) =
      ((readNext pending byte).1 ++ (readBytes (readNext pending byte).2 rest).1,
        (readBytes (readNext pending byte).2 rest).2) := rfl

theorem readNext_none (byte : UInt8) : readNext .none byte = readFirst byte := rfl

/-- A last byte completes its character. -/
theorem readNext_last {pending : Partial} {number : Nat} {character : Char}
    (hneeded : pending.needed = 1) (hlower : pending.lower ≤ number)
    (hupper : number ≤ pending.upper) (hbyte : number < 0x100)
    (hpoint : pending.point * 64 + (number - 0x80) = character.toNat) :
    readNext pending (UInt8.ofNat number) = ([some character], .none) := by
  rw [readNext, toNat_byte hbyte, if_neg (by omega), if_pos ⟨hlower, hupper⟩, if_pos hneeded]
  simp only [hpoint, Char.ofNat_toNat]

theorem readNext_middle {pending : Partial} {number : Nat} (hneeded : 1 < pending.needed)
    (hlower : pending.lower ≤ number) (hupper : number ≤ pending.upper) (hbyte : number < 0x100) :
    readNext pending (UInt8.ofNat number) =
      ([], ⟨pending.needed - 1, pending.point * 64 + (number - 0x80), 0x80, 0xBF⟩) := by
  rw [readNext, toNat_byte hbyte, if_neg (by omega), if_pos ⟨hlower, hupper⟩,
    if_neg (by omega)]

/-- The bytes of a character are read as that character. -/
theorem readBytes_char (character : Char) (rest : List UInt8) :
    readBytes .none (String.utf8EncodeChar character ++ rest) =
      (some character :: (readBytes .none rest).1, (readBytes .none rest).2) := by
  have hcases := toNat_cases character
  have hval : character.val.toNat = character.toNat := rfl
  unfold String.utf8EncodeChar
  simp only [hval]
  split
  case isTrue h =>
    have hfirst : readNext .none (UInt8.ofNat character.toNat) = ([some character], .none) := by
      rw [readNext_none, readFirst, toNat_byte (by omega)]
      simp only [Char.ofNat_toNat]
      rw [if_pos (by omega)]
    rw [List.singleton_append, readBytes_cons, hfirst]
    rfl
  split
  case isTrue h h' =>
    have hfirst : readNext .none (UInt8.ofNat (character.toNat / 64 % 32 + 192)) =
        ([], ⟨1, character.toNat / 64, 0x80, 0xBF⟩) := by
      rw [readNext_none, readFirst, toNat_byte (by omega)]
      rw [if_neg (by omega), if_pos (by omega)]
      have hpoint : character.toNat / 64 % 32 + 192 - 0xC0 = character.toNat / 64 := by omega
      rw [hpoint]
    rw [List.cons_append, List.singleton_append, readBytes_cons, hfirst, readBytes_cons,
      @readNext_last _ _ character rfl (by simp) (by simp only; omega) (by omega)
        (by simp only; omega)]
    rfl
  split
  case isTrue h h' h'' =>
    obtain ⟨lower, hlower, hfirst⟩ : ∃ bounds : Nat × Nat,
        (bounds.1 ≤ character.toNat / 64 % 64 + 128 ∧
          character.toNat / 64 % 64 + 128 ≤ bounds.2) ∧
        readNext .none (UInt8.ofNat (character.toNat / 4096 % 16 + 224)) =
          ([], ⟨2, character.toNat / 4096, bounds.1, bounds.2⟩) := by
      refine ⟨⟨if character.toNat / 4096 % 16 + 224 = 0xE0 then 0xA0 else 0x80,
        if character.toNat / 4096 % 16 + 224 = 0xED then 0x9F else 0xBF⟩, ?_, ?_⟩
      · constructor
        · dsimp only
          split <;> omega
        · dsimp only
          split <;> omega
      · rw [readNext_none, readFirst, toNat_byte (by omega)]
        simp only
        rw [if_neg (by omega), if_neg (by omega), if_pos (by omega)]
        have hpoint : character.toNat / 4096 % 16 + 224 - 0xE0 = character.toNat / 4096 := by omega
        rw [hpoint]
    rw [List.cons_append, List.cons_append, List.singleton_append, readBytes_cons, hfirst,
      readBytes_cons, readNext_middle (by simp) hlower.1 hlower.2 (by omega), readBytes_cons,
      @readNext_last _ _ character rfl (by simp) (by simp only; omega) (by omega)
        (by simp only; omega)]
    rfl
  case isFalse h h' h'' =>
    obtain ⟨lower, hlower, hfirst⟩ : ∃ bounds : Nat × Nat,
        (bounds.1 ≤ character.toNat / 4096 % 64 + 128 ∧
          character.toNat / 4096 % 64 + 128 ≤ bounds.2) ∧
        readNext .none (UInt8.ofNat (character.toNat / 262144 % 8 + 240)) =
          ([], ⟨3, character.toNat / 262144, bounds.1, bounds.2⟩) := by
      refine ⟨⟨if character.toNat / 262144 % 8 + 240 = 0xF0 then 0x90 else 0x80,
        if character.toNat / 262144 % 8 + 240 = 0xF4 then 0x8F else 0xBF⟩, ?_, ?_⟩
      · constructor
        · dsimp only
          split <;> omega
        · dsimp only
          split <;> omega
      · rw [readNext_none, readFirst, toNat_byte (by omega)]
        simp only
        rw [if_neg (by omega), if_neg (by omega), if_neg (by omega), if_pos (by omega)]
        have hpoint : character.toNat / 262144 % 8 + 240 - 0xF0 = character.toNat / 262144 := by
          omega
        rw [hpoint]
    rw [List.cons_append, List.cons_append, List.cons_append, List.singleton_append,
      readBytes_cons, hfirst, readBytes_cons,
      readNext_middle (by simp) hlower.1 hlower.2 (by omega), readBytes_cons,
      readNext_middle (by simp) (by simp) (by simp only; omega) (by omega), readBytes_cons,
      @readNext_last _ _ character rfl (by simp) (by simp only; omega) (by omega)
        (by simp only; omega)]
    rfl

theorem readBytes_chars (characters : List Char) :
    readBytes .none (bytesOfChars characters) = (characters.map some, .none) := by
  induction characters with
  | nil => rfl
  | cons character rest ih =>
      rw [bytesOfChars, List.flatMap_cons, readBytes_char, ← bytesOfChars, ih]
      rfl

theorem readAll_chars (characters : List Char) :
    readAll (bytesOfChars characters) = characters.map some := by
  rw [readAll, readBytes_chars]
  exact List.append_nil _

theorem charsOfBytes_bytesOfChars (characters : List Char) :
    charsOfBytes (bytesOfChars characters) = characters := by
  rw [charsOfBytes, readAll_chars, List.map_map]
  exact List.map_id _

theorem charsOfBytes?_bytesOfChars (characters : List Char) :
    charsOfBytes? (bytesOfChars characters) = some characters := by
  rw [charsOfBytes?, readAll_chars]
  induction characters with
  | nil => rfl
  | cons character rest ih => simp [ih]

/-! ## Texts as bytes -/

/-- The bytes of a text; half of a character is written as the replacement one. -/
def bytesOfUnits (text : CodeUnits) : List UInt8 := bytesOfChars (charsOfUnits text)

def unitsOfBytes (bytes : List UInt8) : CodeUnits := unitsOfChars (charsOfBytes bytes)

/-- A well-formed text is read back as it was written. -/
theorem unitsOfBytes_bytesOfUnits {text : CodeUnits} (h : WellFormed text) :
    unitsOfBytes (bytesOfUnits text) = text := by
  obtain ⟨characters, rfl⟩ := h
  rw [unitsOfBytes, bytesOfUnits, charsOfBytes_bytesOfChars, charsOfUnits_unitsOfChars]

end MatchPlane.Library
