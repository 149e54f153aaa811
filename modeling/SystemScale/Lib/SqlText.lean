import Mathlib.Data.List.Basic

set_option autoImplicit false

/-!
# Literals and comments of a SQL text

A text is cut, byte by byte, into its literals, quoted names and comments and the other bytes. It
is up to a parser what these say; a text that is put into another one is looked at here.
-/

namespace SqlText

inductive Piece where
  | symbol (b : UInt8)
  | literal (text : List UInt8)
  | quoted (text : List UInt8)
  | comment
  deriving DecidableEq

/-- What is being read. After a closing quotation mark a second one would go on with the text. -/
inductive Mode where
  | code
  -- A `-` or a `/`, which may begin a comment.
  | dash
  | slash
  | literal (text : List UInt8)
  | literalQuote (text : List UInt8)
  | quoted (text : List UInt8)
  | quotedQuote (text : List UInt8)
  | line
  | block
  | blockStar
  deriving DecidableEq

def blank : UInt8 := 0x20
def newline : UInt8 := 0x0A
def mark : UInt8 := 0x27
def nameMark : UInt8 := 0x22
def minus : UInt8 := 0x2D
def solidus : UInt8 := 0x2F
def star : UInt8 := 0x2A

def begin (b : UInt8) : Mode × List Piece :=
  if b = mark then (.literal [], [])
  else if b = nameMark then (.quoted [], [])
  else if b = minus then (.dash, [])
  else if b = solidus then (.slash, [])
  else (.code, [.symbol b])

/-- Something ends, and the byte begins what comes next. -/
def ending (piece : Piece) (b : UInt8) : Mode × List Piece := ((begin b).1, piece :: (begin b).2)

def step (mode : Mode) (b : UInt8) : Mode × List Piece :=
  match mode with
  | .code => begin b
  | .dash => if b = minus then (.line, [.comment]) else ending (.symbol minus) b
  | .slash => if b = star then (.block, [.comment]) else ending (.symbol solidus) b
  | .literal text => (if b = mark then .literalQuote text else .literal (text ++ [b]), [])
  | .literalQuote text => if b = mark then (.literal (text ++ [b]), []) else ending (.literal text) b
  | .quoted text => (if b = nameMark then .quotedQuote text else .quoted (text ++ [b]), [])
  | .quotedQuote text =>
    if b = nameMark then (.quoted (text ++ [b]), []) else ending (.quoted text) b
  | .line => (if b = newline then .code else .line, [])
  | .block => (if b = star then .blockStar else .block, [])
  | .blockStar => (if b = solidus then .code else if b = star then .blockStar else .block, [])

def run : Mode → List UInt8 → Mode × List Piece
  | mode, [] => (mode, [])
  | mode, b :: rest =>
    ((run (step mode b).1 rest).1, (step mode b).2 ++ (run (step mode b).1 rest).2)

/-- The text is read as the pieces, and what stands behind a blank is read as if it stood alone. -/
def Stands (pieces : List Piece) (text : List UInt8) : Prop :=
  ∀ rest, run .code (text ++ blank :: rest) =
    ((run .code (blank :: rest)).1, pieces ++ (run .code (blank :: rest)).2)

section Runs

variable {mode next : Mode} {pieces : List Piece} {text : List UInt8}

theorem run_append (mode : Mode) (first second : List UInt8) :
    run mode (first ++ second) =
      ((run (run mode first).1 second).1, (run mode first).2 ++ (run (run mode first).1 second).2) := by
  induction first generalizing mode with
  | nil => rfl
  | cons b first ih =>
    rw [List.cons_append, run, ih, run]
    simp only [List.append_assoc]

theorem run_then (read : run mode text = (next, pieces)) (rest : List UInt8) :
    run mode (text ++ rest) = ((run next rest).1, pieces ++ (run next rest).2) := by
  rw [run_append, read]

theorem stands_code (read : run .code text = (.code, pieces)) : Stands pieces text :=
  fun rest => run_then read (blank :: rest)

-- A closing quotation mark is one where a blank follows.
theorem stands_literal {content : List UInt8}
    (read : run .code text = (.literalQuote content, pieces)) :
    Stands (pieces ++ [.literal content]) text := by
  intro rest
  rw [run_then read, List.append_assoc]
  rfl

theorem Stands.code (stands : Stands pieces text) : (run .code (text ++ [blank])).1 = .code := by
  rw [stands []]
  rfl

/-- Bytes that neither begin a literal or a name nor may begin a comment. -/
def Plain (b : UInt8) : Prop := b ≠ mark ∧ b ≠ nameMark ∧ b ≠ minus ∧ b ≠ solidus

instance : DecidablePred Plain := fun b => inferInstanceAs (Decidable (b ≠ mark ∧ _))

theorem begin_plain {b : UInt8} (plain : Plain b) : begin b = (.code, [.symbol b]) := by
  obtain ⟨no_mark, no_name, no_minus, no_solidus⟩ := plain
  rw [begin, if_neg no_mark, if_neg no_name, if_neg no_minus, if_neg no_solidus]

theorem run_plain (plain : ∀ b ∈ text, Plain b) : run .code text = (.code, text.map .symbol) := by
  induction text with
  | nil => rfl
  | cons b rest ih =>
    have first : step .code b = (.code, [.symbol b]) := begin_plain (plain b (by simp))
    have later := ih fun c member => plain c (by simp [member])
    rw [run, first, later]
    rfl

theorem run_minus {b : UInt8} (first : Plain b) (plain : ∀ c ∈ text, Plain c) :
    run .dash (b :: text) = (.code, .symbol minus :: .symbol b :: text.map .symbol) := by
  have ends : step .dash b = (.code, [.symbol minus, .symbol b]) := by
    rw [step, if_neg first.2.2.1, ending, begin_plain first]
  rw [run, ends, run_plain plain]
  rfl

theorem run_line (unbroken : newline ∉ text) : run .line text = (.line, []) := by
  induction text with
  | nil => rfl
  | cons b rest ih =>
    rw [List.mem_cons, not_or] at unbroken
    have stays : step .line b = (.line, []) := by rw [step, if_neg (Ne.symm unbroken.1)]
    rw [run, stays, ih unbroken.2]
    rfl

-- Quotation marks that are doubled stay inside the literal.
theorem run_doubled (content : List UInt8) :
    run (.literal content) (text.flatMap fun b => if b = mark then [mark, mark] else [b]) =
      (.literal (content ++ text), []) := by
  induction text generalizing content with
  | nil => simp [run]
  | cons b rest ih =>
    have first : run (.literal content) (if b = mark then [mark, mark] else [b]) =
        (.literal (content ++ [b]), []) := by
      split_ifs with is
      · subst is
        simp [run, step]
      · simp [run, step, is]
    rw [List.flatMap_cons, run_then first, ih]
    simp

end Runs

end SqlText
