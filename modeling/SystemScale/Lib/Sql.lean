import Mathlib.Data.List.Basic
import Mathlib.Data.List.Infix

set_option autoImplicit false

/-!
# Queries of one table

`SELECT columns FROM table [WHERE formula]` with the clauses that may follow. A text is cut into
tokens character by character, and the tokens are read by a machine that keeps the formula.
-/

namespace Sql

/-! ## Tokens -/

/-- Names and keywords do not depend on the case of letters, so they are kept in lower case. -/
inductive Token where
  | word (text : List Char)
  | quoted (text : List Char)
  | literal (text : List Char)
  | operator (text : List Char)
  | openParen
  | closeParen
  | comma
  | star
  deriving DecidableEq

def lowered (text : List Char) : List Char := text.map Char.toLower

def isBlank (c : Char) : Bool := c = ' ' || c = '\t' || c = '\n' || c = '\r' || c = '\x0C'

-- Numbers and placeholders are words as well.
def isWordChar (c : Char) : Bool :=
  c.isAlphanum || c = '_' || c = '.' || c = '$' || decide (128 ≤ c.toNat)

def isOperatorChar (c : Char) : Bool := c = '=' || c = '<' || c = '>' || c = '!'

/-- What is being read. After a closing quotation mark a second one would go on with the text. -/
inductive Mode where
  | blank
  | word (text : List Char)
  | operator (text : List Char)
  | literal (text : List Char)
  | literalQuote (text : List Char)
  | quoted (text : List Char)
  | quotedQuote (text : List Char)
  deriving DecidableEq

/-- The token that ends here, if one may. -/
def Mode.close : Mode → Option (List Token)
  | .blank => some []
  | .word text => some [.word (lowered text)]
  | .operator text => some [.operator text]
  | .literal _ => none
  | .literalQuote text => some [.literal text]
  | .quoted _ => none
  | .quotedQuote text => some [.quoted (lowered text)]

/-- Going on with the token, if the character does. -/
def Mode.extend (mode : Mode) (c : Char) : Option Mode :=
  match mode with
  | .blank => none
  | .word text => if isWordChar c then some (.word (text ++ [c])) else none
  | .operator text => if isOperatorChar c then some (.operator (text ++ [c])) else none
  | .literal text => some (if c = '\'' then .literalQuote text else .literal (text ++ [c]))
  | .literalQuote text => if c = '\'' then some (.literal (text ++ [c])) else none
  | .quoted text => some (if c = '"' then .quotedQuote text else .quoted (text ++ [c]))
  | .quotedQuote text => if c = '"' then some (.quoted (text ++ [c])) else none

def begin (c : Char) : Option (List Token × Mode) :=
  if isBlank c then some ([], .blank)
  else if isWordChar c then some ([], .word [c])
  else if isOperatorChar c then some ([], .operator [c])
  else if c = '\'' then some ([], .literal [])
  else if c = '"' then some ([], .quoted [])
  else if c = '(' then some ([.openParen], .blank)
  else if c = ')' then some ([.closeParen], .blank)
  else if c = ',' then some ([.comma], .blank)
  else if c = '*' then some ([.star], .blank)
  else none

def step (mode : Mode) (c : Char) : Option (List Token × Mode) :=
  match mode.extend c with
  | some mode => some ([], mode)
  | none => do
    let ended ← mode.close
    let (begun, mode) ← begin c
    some (ended ++ begun, mode)

def scan : Mode → List Char → Option (List Token × Mode)
  | mode, [] => some ([], mode)
  | mode, c :: rest => do
    let (tokens, mode) ← step mode c
    let (more, mode) ← scan mode rest
    some (tokens ++ more, mode)

def lexFrom (mode : Mode) (text : List Char) : Option (List Token) := do
  let (tokens, mode) ← scan mode text
  let last ← mode.close
  some (tokens ++ last)

def lex (text : List Char) : Option (List Token) := lexFrom .blank text

example : lex "a<='b''c'".toList =
    some [.word ['a'], .operator ['<', '='], .literal ['b', '\'', 'c']] := by decide

/-! ## Formulas -/

inductive Operand where
  | name (text : List Char)
  | literal (text : List Char)
  deriving DecidableEq

structure Comparison where
  column : List Char
  operator : List Char
  operand : Operand
  deriving DecidableEq

inductive Formula where
  | compare (comparison : Comparison)
  | and (first second : Formula)
  | or (first second : Formula)
  | paren (inner : Formula)
  deriving DecidableEq

def Formula.holds (meets : Comparison → Bool) : Formula → Bool
  | .compare comparison => meets comparison
  | .and first second => first.holds meets && second.holds meets
  | .or first second => first.holds meets || second.holds meets
  | .paren inner => inner.holds meets

/-- A formula that is being read: the disjuncts before the last `OR`, and the conjunction
behind it. -/
structure Frame where
  ored : Option Formula
  conj : Option Formula
  deriving DecidableEq

def Frame.empty : Frame := ⟨none, none⟩

def Frame.add (frame : Frame) (factor : Formula) : Frame :=
  match frame.conj with
  | none => { frame with conj := some factor }
  | some conj => { frame with conj := some (.and conj factor) }

def Frame.whole (frame : Frame) : Option Formula :=
  match frame.ored, frame.conj with
  | some ored, some conj => some (.or ored conj)
  | some ored, none => some ored
  | none, conj => conj

def Frame.split (frame : Frame) : Frame := ⟨frame.whole, none⟩

/-! ## Statements -/

def reserved : List String :=
  ["select", "from", "where", "and", "or", "as", "sample", "group", "order", "by", "limit"]

def Token.is (token : Token) (keyword : String) : Bool := token = .word keyword.toList

def Token.name : Token → Option (List Char)
  | .word text => if text ∈ reserved.map String.toList then none else some text
  | .quoted text => some text
  | _ => none

def Token.isLiteral : Token → Bool
  | .literal _ => true
  | _ => false

/-- What has been read of a statement. In a formula `outer` are the frames around the innermost
parentheses; behind it, clauses are numbered by their order. -/
inductive Phase where
  | start
  | item
  | columnEnd
  | call
  | callEnd
  | called
  | aliasNext
  | itemEnd
  | table
  | tabled
  | operand (frame : Frame) (outer : List Frame)
  | compared (column : List Char) (frame : Frame) (outer : List Frame)
  | value (column operator : List Char) (frame : Frame) (outer : List Frame)
  | factor (frame : Frame) (outer : List Frame)
  | byNext (filter : Option Formula) (clause : Nat)
  | argument (filter : Option Formula) (clause : Nat)
  | arguments (filter : Option Formula) (clause : Nat)
  deriving DecidableEq

/-- Behind an item that may have an alias. -/
def itemNext (token : Token) : Option Phase :=
  if token.is "as" then some .aliasNext
  else if token.name.isSome then some .itemEnd
  else if token = .comma then some .item
  else if token.is "from" then some .table
  else none

/-- The clauses are `SAMPLE BY`, `GROUP BY`, `ORDER BY` and `LIMIT`, in this order. -/
def clause (filter : Option Formula) (last : Nat) (token : Token) : Option Phase :=
  if last < 1 ∧ token.is "sample" then some (.byNext filter 1)
  else if last < 2 ∧ token.is "group" then some (.byNext filter 2)
  else if last < 3 ∧ token.is "order" then some (.byNext filter 3)
  else if last < 4 ∧ token.is "limit" then some (.argument filter 4)
  else none

def Phase.next (source : List Char) (phase : Phase) (token : Token) : Option Phase :=
  match phase with
  | .start => if token.is "select" then some .item else none
  | .item =>
    if token = .star then some .itemEnd
    else if token.isLiteral then some .called
    else if token.name.isSome then some .columnEnd
    else none
  | .columnEnd => if token = .openParen then some .call else itemNext token
  | .call => if token = .star ∨ token.name.isSome then some .callEnd else none
  | .callEnd => if token = .closeParen then some .called else none
  | .called => itemNext token
  | .aliasNext => if token.isLiteral ∨ token.name.isSome then some .itemEnd else none
  | .itemEnd =>
    if token = .comma then some .item else if token.is "from" then some .table else none
  | .table => if token.name = some source then some .tabled else none
  | .tabled =>
    if token.is "where" then some (.operand .empty []) else clause none 0 token
  | .operand frame outer =>
    if token = .openParen then some (.operand .empty (frame :: outer))
    else token.name.map fun column => .compared column frame outer
  | .compared column frame outer =>
    match token with
    | .operator operator => some (.value column operator frame outer)
    | _ => none
  | .value column operator frame outer =>
    match token with
    | .literal text =>
      some (.factor (frame.add (.compare ⟨column, operator, .literal text⟩)) outer)
    | _ => token.name.map fun name =>
      .factor (frame.add (.compare ⟨column, operator, .name name⟩)) outer
  | .factor frame outer =>
    if token.is "and" then some (.operand frame outer)
    else if token.is "or" then some (.operand frame.split outer)
    else
      match outer with
      | [] => clause frame.whole 0 token
      | enclosing :: outer =>
        if token = .closeParen then
          frame.whole.map fun inner => .factor (enclosing.add (.paren inner)) outer
        else none
  | .byNext filter number => if token.is "by" then some (.argument filter number) else none
  | .argument filter number => if token.name.isSome then some (.arguments filter number) else none
  | .arguments filter number =>
    if token = .comma then some (.argument filter number)
    else if token.name.isSome then some (.arguments filter number)
    else clause filter number token

/-- The formula of a whole statement. Columns and later clauses pick no rows out, so nothing else
is kept. -/
def Phase.finish : Phase → Option (Option Formula)
  | .tabled => some none
  | .factor frame [] => some frame.whole
  | .arguments filter _ => some filter
  | _ => none

def run (source : List Char) (phase : Phase) (tokens : List Token) : Option Phase :=
  tokens.foldlM (Phase.next source) phase

def parse (source text : List Char) : Option (Option Formula) := do
  let tokens ← lex text
  let phase ← run source .start tokens
  phase.finish

/-- The formula of a statement that ends before any of the later clauses, still open to another
conjunct. -/
def Phase.head : Phase → Option (Option Frame)
  | .tabled => some none
  | .factor frame [] => some (some frame)
  | _ => none

def parseHead (source text : List Char) : Option (Option Frame) := do
  let tokens ← lex text
  let phase ← run source .start tokens
  phase.head

example : parse "t".toList "SELECT a, max(b) AS 'x' FROM t WHERE a = 1 OR (b > 2) ORDER BY a".toList =
    some (some (.or (.compare ⟨['a'], ['='], .name ['1']⟩)
      (.paren (.compare ⟨['b'], ['>'], .name ['2']⟩)))) := by
  decide +kernel

end Sql
