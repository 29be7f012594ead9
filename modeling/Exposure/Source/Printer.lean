import Exposure.Json.Basic
import Exposure.Source.Syntax
import Exposure.Text.Letter
import Exposure.Text.Split

/-!
The text of an expression in its plainest form: one blank around binary operators and behind commas,
strings in quotes as messages have them, and brackets only where the grouping needs them. Names,
parts of names, data, indexes, calls and operators are written; of other expressions only a mark.
-/
namespace Exposure.Source

/-- How tightly an operator binds; the loosest is zero. -/
def strengthOf : String → Nat
  | "or" => 2
  | "and" => 3
  | "|" => 6
  | "^" => 7
  | "&" => 8
  | "<<" => 9
  | ">>" => 9
  | "+" => 10
  | "-" => 10
  | "*" => 11
  | "/" => 11
  | "//" => 11
  | "%" => 11
  | "@" => 11
  | "**" => 13
  | _ => 5

/-- In brackets if more strength is asked for than there is. -/
def bracketed (needed strength : Nat) (s : List Char) : List Char :=
  if strength < needed then '(' :: s ++ [')'] else s

def Number.written : Number → List Char
  | .int n => (toString n).toList
  | .float (some x) => x.format Json.displayStyle
  | .float none => "1e309".toList
  | .imaginary (some x) => x.format Json.displayStyle ++ ['j']
  | .imaginary none => "1e309j".toList

def Constant.written : Constant → List Char
  | .null => "None".toList
  | .bool b => (if b then "True" else "False").toList
  | .ellipsis => "...".toList
  | .number n => n.written
  | .text s => Text.quoted s.toList
  | .bytes s => 'b' :: Text.quoted s.toList

def UnaryOperator.written : UnaryOperator → List Char
  | .not => "not ".toList
  | .minus => ['-']
  | .plus => ['+']
  | .invert => ['~']

/-- Stands for an expression that is not written. -/
def unwritten : List Char := "...".toList

mutual

/-- The text of an expression where an operator of the given strength stands beside it. -/
def Expr.text (needed : Nat) : Expr → List Char
  | .name id => id.toList
  | .constant c => c.written
  | .attribute base name =>
    let b := base.text 15
    let gap : List Char := match base with
      | .constant (.number (.int _)) => [' ']
      | _ => []
    b ++ gap ++ '.' :: name.toList
  | .subscript base index => base.text 15 ++ '[' :: index.text 0 ++ [']']
  | .call callee arguments =>
    callee.text 15 ++ '(' :: Text.joinWith [',', ' '] (texts 1 arguments) ++ [')']
  | .unary op operand =>
    let strength := if op = .not then 4 else 12
    bracketed needed strength (op.written ++ operand.text strength)
  | .binary op left right =>
    let strength := strengthOf op
    let (l, r) := if op = "**" then (strength + 1, strength)
      else (strength, strength + 1)
    bracketed needed strength (left.text l ++ ' ' :: op.toList ++ ' ' :: right.text r)
  | .conditional test yes no =>
    bracketed needed 1 (yes.text 2 ++ " if ".toList ++ test.text 2 ++ " else ".toList ++ no.text 1)
  | .tuple items => match texts 1 items with
    | [] => ['(', ')']
    | [one] => bracketed needed 0 (one ++ [','])
    | many => bracketed needed 0 (Text.joinWith [',', ' '] many)
  | .list items => '[' :: Text.joinWith [',', ' '] (texts 1 items) ++ [']']
  | .set items => '\x7b' :: Text.joinWith [',', ' '] (texts 1 items) ++ ['\x7d']
  | .dict entries => '\x7b' :: Text.joinWith [',', ' '] (texts 1 entries) ++ ['\x7d']
  | .await value => bracketed needed 14 ("await ".toList ++ value.text 15)
  | .assignment name value =>
    bracketed needed 0 (name.toList ++ " := ".toList ++ value.text 1)
  | .starred value => '*' :: value.text 6
  | .doubleStarred value => '*' :: '*' :: value.text 6
  | .keyword name value => name.toList ++ '=' :: value.text 1
  | .pair key value => key.text 1 ++ ':' :: ' ' :: value.text 1
  | _ => unwritten

def texts (needed : Nat) : List Expr → List (List Char)
  | [] => []
  | e :: es => e.text needed :: texts needed es

end

end Exposure.Source
