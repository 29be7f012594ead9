import Exposure.Doc.Tag
import Exposure.Proofs.Pattern.Repetition

/-!
Quotes around a value. They are taken away whatever stands between them, quotes among it.
-/
namespace Exposure.Doc

open Pattern

def quoteTest : CharTest := .set false [.range 34 34, .range 39 39]

def closePart : Regex := .seq (.backReference {} 1 (1, some 1)) (.anchor {} .lineEnd)

def innerPart : Regex :=
  .seq (.capture 2 (.repetition 0 none .greedy (.one {} .any))) closePart

theorem quotedPattern_eq : quotedPattern =
    .seq (.anchor {} .lineStart) (.seq (.capture 1 (.one {} quoteTest)) innerPart) := by
  decide +kernel

def IsQuote (c : Char) : Prop := c = '"' ∨ c = '\''

variable {text : Array Char} {p : Point} {q : Char} {s : List Char}

theorem run_quotedPattern (h : text.toList = q :: s) (hq : IsQuote q) :
    quotedPattern.run text { position := 0 } some =
      innerPart.run text { position := 1, captures := [(1, 0, 1)], starts := [(1, 0)] } some := by
  have hahead : Point.ahead text { position := 0 } = q :: s := h
  have hset : quoteTest.holds {} q = true := by rcases hq with rfl | rfl <;> rfl
  have hstart : quotedPattern.run text { position := 0 } some =
      (Regex.one {} quoteTest).run text (Point.enter { position := 0 } 1) fun r =>
        innerPart.run text (r.capture 1 0) some := by
    rw [quotedPattern_eq]
    exact if_pos (e := none) (show Anchor.lineStart.holds text {} 0 = true from rfl)
  rw [hstart, run_one_cons ((Point.ahead_enter ..).trans hahead), if_pos hset]
  rfl

theorem run_innerPart (text : Array Char) (p : Point) : innerPart.run text p some =
    (Regex.repetition 0 none .greedy (.one {} .any)).run text (p.enter 2) fun r =>
      closePart.run text (r.capture 2 p.position) some := rfl

section Close

variable (htext : text.toList = q :: s) (hopen : p.captures.lookup 1 = some (0, 1))
include htext hopen

/-- The rest matches the quote that was opened with, at the end of the text. -/
theorem run_closePart : closePart.run text p some =
    if ((p.ahead text).take 1).length = 1 && sameText {} [q] ((p.ahead text).take 1) then
      if Anchor.lineEnd.holds text {} (p.advance 1).position then some (p.advance 1) else none
    else none := by
  have hwanted : (text.extract 0 1).toList = [q] := by
    rw [Array.toList_extract, htext]
    rfl
  have hfound : (text.extract p.position (p.position + 1)).toList = (p.ahead text).take 1 := by
    simp [Point.ahead]
  simp only [closePart, Regex.run, hopen, hwanted, hfound, Nat.sub_zero]
  rfl

theorem run_closePart_nil (h : p.ahead text = []) : closePart.run text p some = none := by
  rw [run_closePart htext hopen, h]
  rfl

theorem run_closePart_end (h : p.ahead text = [q]) :
    closePart.run text p some = some (p.advance 1) := by
  have hlength := length_ahead text p
  rw [h, List.length_singleton] at hlength
  have hend : (p.advance 1).position = text.size := by
    change p.position + 1 = _
    omega
  rw [run_closePart htext hopen, h, hend]
  simp [sameText, Anchor.holds]

end Close

theorem unquote_quoted {v : List Char} (hq : IsQuote q) (hv : '\n' ∉ v) :
    unquote (q :: (v ++ [q])) = v := by
  let text := (q :: (v ++ [q])).toArray
  let behind : Point :=
    Point.enter { position := 1, captures := [(1, 0, 1)], starts := [(1, 0)] } 2
  let inner (j : Nat) : Point := (behind.advance j).capture 2 1
  have hinner (j : Nat) : (inner j).ahead text = (v ++ [q]).drop j := behind.ahead_advance text j
  have hall : ∀ c ∈ v ++ [q], CharTest.any.holds {} c = true := by
    intro c hc
    have hne : c ≠ '\n' := by
      rintro rfl
      rcases hq with rfl | rfl <;> simp_all
    simp [CharTest.holds, hne]
  have hpassing : passing text {} .any behind = v.length + 1 := by
    have hahead : behind.ahead text = v ++ [q] := rfl
    simp [passing, hahead, Text.takeWhile_of_all hall]
  have hclose : closePart.run text (inner v.length) some = some ((inner v.length).advance 1) := by
    refine run_closePart_end rfl rfl ?_
    rw [hinner, List.drop_left]
  have hlast (j : Nat) (hlt : v.length < j) : closePart.run text (inner j) some = none := by
    refine run_closePart_nil rfl rfl ?_
    rw [hinner, List.drop_eq_nil_of_le]
    rw [List.length_append]
    exact hlt
  have hrun := run_greedy_of_last (k := fun r => closePart.run text (r.capture 2 1) some)
    (show v.length ≤ passing text {} .any behind by omega) (fun j hlt _ => hlast j hlt) hclose
  have hvalue : ((inner v.length).advance 1).captured text 2 = some v :=
    (behind.captured_capture text 2 v.length).trans (congrArg some List.take_left)
  rw [unquote, run_quotedPattern rfl hq, run_innerPart, hrun]
  exact congrArg (Option.getD · []) hvalue

end Exposure.Doc
