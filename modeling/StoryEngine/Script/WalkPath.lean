import StoryEngine.World.Direction

/-! # Walk paths

A path is written as segments one after the other, with blanks anywhere. A segment is a direction
letter with an optional count, or the word `alternate`, direction letters, and a count that repeats
all of them. A path has between one and 4096 steps.
-/

namespace StoryEngine

set_option autoImplicit false

inductive WalkFault where
  | noDirections
  | noRepeatCount
  | tooLong
  | notADirection (c : Char)
  | empty
deriving DecidableEq

namespace WalkPath

def maxSteps : Nat := 4096

end WalkPath

def WalkFault.message : WalkFault → String
  | noDirections => "alternate without directions"
  | noRepeatCount => "alternate without a repeat count"
  | tooLong => s!"walk longer than {WalkPath.maxSteps} steps"
  | notADirection c => s!"invalid walk direction '{c}'"
  | empty => "empty walk path"

namespace WalkPath

/-- Counts are 64-bit numbers, and a larger one stops at the last of them. -/
def saturate (n : Nat) : Nat := min n 0xFFFFFFFFFFFFFFFF

/-- Directions to be walked in order, and how often. -/
structure Segment where
  directions : List Direction
  count : Nat
deriving DecidableEq

def Segment.steps (s : Segment) : Nat := saturate (s.directions.length * s.count)

def Segment.expand (s : Segment) : List Direction := (List.replicate s.count s.directions).flatten

def alternateWord : List Char := "alternate".toList

def takeCount (cs : List Char) : Option Nat × List Char :=
  let digits := cs.takeWhile Char.isDigit
  (if digits = [] then none else some (saturate (Nat.ofDigitChars 10 digits 0)),
    cs.dropWhile Char.isDigit)

def takeDirections : List Char → List Direction × List Char
  | [] => ([], [])
  | c :: cs =>
    match Direction.ofLetter? c with
    | some d => let (ds, rest) := takeDirections cs; (d :: ds, rest)
    | none => ([], c :: cs)

def takeAlternate (cs : List Char) : Except WalkFault (Segment × List Char) :=
  match takeDirections cs with
  | ([], _) => .error .noDirections
  | (ds, rest) =>
    match takeCount rest with
    | (some n, rest) => .ok (⟨ds, n⟩, rest)
    | (none, _) => .error .noRepeatCount

def takeLetter (c : Char) (cs : List Char) : Except WalkFault (Segment × List Char) :=
  match Direction.ofLetter? c with
  | some d => .ok (⟨[d], (takeCount cs).1.getD 1⟩, (takeCount cs).2)
  | none => .error (.notADirection c)

def takeSegment (c : Char) (cs : List Char) : Except WalkFault (Segment × List Char) :=
  if alternateWord.isPrefixOf ((c :: cs).map Char.toLower) then
    takeAlternate ((c :: cs).drop alternateWord.length)
  else takeLetter c cs

theorem length_takeCount_le (cs : List Char) : (takeCount cs).2.length ≤ cs.length :=
  (List.dropWhile_suffix _).length_le

theorem length_takeDirections_le (cs : List Char) :
    (takeDirections cs).2.length ≤ cs.length := by
  induction cs with
  | nil => simp [takeDirections]
  | cons c cs ih =>
    rw [takeDirections]
    split
    · exact Nat.le_succ_of_le ih
    · exact Nat.le_refl _

theorem length_takeAlternate_le (cs rest : List Char) (s : Segment)
    (h : takeAlternate cs = .ok (s, rest)) : rest.length ≤ cs.length := by
  rw [takeAlternate] at h
  split at h
  · cases h
  · next ds mid hne hd =>
    have hmid : mid.length ≤ cs.length := by
      have := length_takeDirections_le cs
      rwa [hd] at this
    split at h
    · next n tail hc =>
      cases h
      have := length_takeCount_le mid
      rw [hc] at this
      exact Nat.le_trans this hmid
    · cases h

theorem length_takeSegment_lt (c : Char) (cs rest : List Char) (s : Segment)
    (h : takeSegment c cs = .ok (s, rest)) : rest.length < (c :: cs).length := by
  rw [takeSegment] at h
  split at h
  · have := length_takeAlternate_le _ rest s h
    have hw : alternateWord.length = 9 := by decide
    simp only [List.length_drop, List.length_cons, hw] at this ⊢
    omega
  · rw [takeLetter] at h
    split at h
    · cases h
      exact Nat.lt_succ_of_le (length_takeCount_le cs)
    · cases h

/-- Reads the segments of a text without blanks, when `taken` steps precede it. -/
def readSegments (taken : Nat) : List Char → Except WalkFault (List Direction)
  | [] => .ok []
  | c :: cs =>
    match h : takeSegment c cs with
    | .error fault => .error fault
    | .ok (s, rest) =>
      have := length_takeSegment_lt c cs rest s h
      if saturate (taken + s.steps) > maxSteps then .error .tooLong
      else (readSegments (taken + s.steps) rest).map (s.expand ++ ·)
termination_by cs => cs.length
decreasing_by exact this

def parse (raw : String) : Except WalkFault (List Direction) :=
  match readSegments 0 (raw.toList.filter fun c => !Text.isBlank c) with
  | .ok [] => .error .empty
  | result => result

end WalkPath

end StoryEngine
