import Blockhost.Library.Lines
import Mathlib.Data.List.Monad

/-! Patterns that are matched by backtracking: each lists its matches at the start of a text, in
the order in which they are tried. A search takes the first match at the first place that has one.
-/

namespace Library

/-- What a pattern reads at the start of a text and what remains, once for each match. -/
abbrev Pattern (Value : Type) := StateT Text List Value

namespace Pattern

variable {First Value : Type}

/-- `[..]*`, the longest match first. -/
def runs (accepts : Char → Bool) : Text → List (Text × Text)
  | [] => [([], [])]
  | letter :: rest =>
      (if accepts letter then
        (runs accepts rest).map (fun (run, after) => (letter :: run, after))
      else [])
      ++ [([], letter :: rest)]

def many (accepts : Char → Bool) : Pattern Text := runs accepts

/-- `[..]{least,most}` -/
def between (least most : Nat) (accepts : Char → Bool) : Pattern Text := fun text =>
  (runs accepts text).filter (fun (run, _) => least ≤ run.length ∧ run.length ≤ most)

/-- `[..]+` -/
def some (accepts : Char → Bool) : Pattern Text := fun text =>
  (runs accepts text).filter (fun (run, _) => run ≠ [])

/-- `[..]+?`, the shortest match first. -/
def few (accepts : Char → Bool) : Pattern Text := fun text => (some accepts text).reverse

/-- A word of small letters; `fold` tells which of them a letter matches. -/
def word (fold : Char → Char) (letters : Text) : Pattern Unit := fun text =>
  if (text.take letters.length).map fold = letters then [((), text.drop letters.length)] else []

/-- `pattern?` -/
def optional (pattern : Pattern Value) : Pattern (Option Value) :=
  (Option.some <$> pattern) <|> pure none

/-- `$` -/
def ending : Pattern Unit := fun text =>
  if text = [] ∨ text = ['\n'] then [((), text)] else []

/-- `^` in a search that is, or is not, at its first place. -/
def beginning (first : Bool) : Pattern Unit := if first then pure () else failure

def searchFrom (pattern : Bool → Pattern Value) (first : Bool) : Text → Option Value
  | [] => ((pattern first).run []).head?.map Prod.fst
  | letter :: rest =>
      (((pattern first).run (letter :: rest)).head?.map Prod.fst).or
        (searchFrom pattern false rest)

/-- `search` -/
def search (pattern : Bool → Pattern Value) (text : Text) : Option Value :=
  searchFrom pattern true text

end Pattern

end Library
