import Multilink.Clock
import Multilink.Score.History
import Multilink.Score.Profile
import Multilink.Score.Tally
/-!
# Link statistics and scores

What is known about one peer on one medium: the outcomes since the last scoring, the failure rates
of earlier ones, and the last score.

A score is the suitability of the payload length plus a term for reliability, clamped to ±100 and
averaged with the previous score. Each scoring moves the outcomes into the history.
-/

namespace Multilink

/-- The statistics of one peer on one medium. -/
structure LinkStats (R : Type) where
  /-- The failure rates of earlier scorings. -/
  history : History R := {}
  /-- Sends that succeeded since the last scoring. -/
  sendOk : Tally := 0
  /-- Sends that failed since the last scoring. -/
  sendFail : Tally := 0
  /-- Receives that succeeded since the last scoring. -/
  recvOk : Tally := 0
  /-- Receives that failed since the last scoring. -/
  recvFail : Tally := 0
  lastScore : Option R := none
  /-- When it was computed, in microseconds. -/
  lastScoredAt : Micros := 0
  /-- The nominal speed of the medium in bytes a second. -/
  nominalSpeed : UInt32
  /-- The speed that the driver measured last. -/
  measuredSpeed : UInt32 := 0

namespace LinkStats

open ScoreNumber

variable {R : Type}

/-- The failures since the last scoring. -/
def failures (s : LinkStats R) : Tally :=
  Tally.plus s.sendFail s.recvFail

/-- The successes since the last scoring. -/
def successes (s : LinkStats R) : Tally :=
  Tally.plus s.sendOk s.recvOk

/-- Notes the outcome of a send. -/
def recordSend (s : LinkStats R) (ok : Bool) : LinkStats R :=
  if ok then { s with sendOk := s.sendOk.succ } else { s with sendFail := s.sendFail.succ }

/-- Notes the outcome of a receive. -/
def recordReceive (s : LinkStats R) (ok : Bool) : LinkStats R :=
  if ok then { s with recvOk := s.recvOk.succ } else { s with recvFail := s.recvFail.succ }

/-- Forgets the outcomes since the last scoring. -/
def resetCounters (s : LinkStats R) : LinkStats R :=
  { s with sendOk := 0, sendFail := 0, recvOk := 0, recvFail := 0 }

variable [ScoreNumber R]

/-- The share of failures since the last scoring; zero if nothing was tried. -/
def currentFailureRate (s : LinkStats R) : R :=
  let total := Tally.plus s.failures s.successes
  if total = 0 then ofNat 0 else ofNat s.failures.toNat / ofNat total.toNat

/-- Records a failure rate, clamped to the range from zero to one. -/
def pushFailureRate (s : LinkStats R) (rate : R) : LinkStats R :=
  { s with history := s.history.push (clamp (ofNat 0) (ofNat 1) rate) }

/-- Records the current failure rate. -/
def settle (s : LinkStats R) : LinkStats R :=
  s.pushFailureRate s.currentFailureRate

/-- The term for reliability: ten less a hundred times the average failure rate, at least -100. -/
def reliabilityTerm (s : LinkStats R) : R :=
  atLeast (-ofNat 100) (ofNat 10 - ofNat 100 * s.history.average)

/-- The score of a payload length before it is averaged with the previous one. -/
def rawScore (s : LinkStats R) (p : Profile R) (length : Nat) : R :=
  clamp (-ofNat 100) (ofNat 100) (p.lengthSuitability length + s.reliabilityTerm)

/-- A score averaged with the previous one, if there is one. -/
def smooth (previous : Option R) (computed : R) : R :=
  match previous with
  | some last => (computed + last) / ofNat 2
  | none => computed

/-- Scores a payload length at a time: the current outcomes become history, and the score is
kept. -/
def score (s : LinkStats R) (p : Profile R) (length : Nat) (now : Micros) : R × LinkStats R :=
  let settled := s.settle
  let result := smooth s.lastScore (settled.rawScore p length)
  (result, { settled.resetCounters with lastScore := some result, lastScoredAt := now })

end LinkStats

end Multilink
