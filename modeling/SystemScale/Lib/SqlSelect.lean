import SystemScale.Lib.SqlText

set_option autoImplicit false

/-!
# Statements that select

`SELECT items FROM table [WHERE formula] [SAMPLE BY interval] [ORDER BY column [DESC]]
[LIMIT number]`, with calls of functions. A text is cut into tokens, and the tokens are read from
left to right; a statement that is written as tokens is read back.
-/

namespace SqlSelect

open SqlText (Piece Stands)

/-! ## Tokens -/

/-- Names and keywords do not depend on the case of letters, so they are kept in lower case. Numbers
and placeholders are words as well. -/
inductive Token where
  | word (text : List UInt8)
  | literal (text : List UInt8)
  | quoted (text : List UInt8)
  | symbol (b : UInt8)
  deriving DecidableEq

def bytes (text : String) : List UInt8 := text.toList.map fun c => UInt8.ofNat c.toNat

def opening : UInt8 := 0x28
def closing : UInt8 := 0x29
def comma : UInt8 := 0x2C
def equality : UInt8 := 0x3D
def below : UInt8 := 0x3C
def above : UInt8 := 0x3E

def isBlank (b : UInt8) : Bool := b = 0x20 || b = 0x09 || b = 0x0A || b = 0x0C || b = 0x0D

def isUpper (b : UInt8) : Bool := 0x41 ≤ b && b ≤ 0x5A

def isWordByte (b : UInt8) : Bool :=
  (0x30 ≤ b && b ≤ 0x39) || isUpper b || (0x61 ≤ b && b ≤ 0x7A) || b = 0x5F || b = 0x2E ||
    b = 0x24 || 0x80 ≤ b

def lowered (b : UInt8) : UInt8 := if isUpper b then b + 0x20 else b

def ended (word : List UInt8) : List Token := if word = [] then [] else [.word word]

/-- The tokens of the pieces behind the beginning of a word. -/
def cut : List UInt8 → List Piece → List Token
  | word, [] => ended word
  | word, .symbol b :: rest =>
    if isWordByte b then cut (word ++ [lowered b]) rest
    else if isBlank b then ended word ++ cut [] rest
    else ended word ++ .symbol b :: cut [] rest
  | word, .literal text :: rest => ended word ++ .literal text :: cut [] rest
  | word, .quoted text :: rest => ended word ++ .quoted text :: cut [] rest
  | word, .comment :: rest => ended word ++ cut [] rest

/-- What the end of the text ends, if it may end here. -/
def last : SqlText.Mode → Option (List Piece)
  | .code | .line => some []
  | .dash => some [.symbol SqlText.minus]
  | .slash => some [.symbol SqlText.solidus]
  | .literalQuote text => some [.literal text]
  | .quotedQuote text => some [.quoted text]
  | .literal _ | .quoted _ | .block | .blockStar => none

def lex (text : List UInt8) : Option (List Token) :=
  (last (SqlText.run .code text).1).map fun ending => cut [] ((SqlText.run .code text).2 ++ ending)

/-- The text is read as the tokens, and what stands behind a blank is read as if it stood alone. -/
def Reads (tokens : List Token) (text : List UInt8) : Prop :=
  ∃ pieces, Stands pieces text ∧ cut [] pieces = tokens

section Texts

variable {first second : List UInt8} {tokens others : List Token}

theorem cut_blank (word : List UInt8) (pieces rest : List Piece) :
    cut word (pieces ++ .symbol SqlText.blank :: rest) = cut word pieces ++ cut [] rest := by
  induction pieces generalizing word with
  | nil => rfl
  | cons piece pieces ih =>
    rw [List.cons_append]
    cases piece with
    | symbol b =>
      rw [cut, cut]
      split_ifs <;> simp only [ih, List.append_assoc, List.cons_append]
    | literal text => simp only [cut, ih, List.append_assoc, List.cons_append]
    | quoted text => simp only [cut, ih, List.append_assoc, List.cons_append]
    | comment => simp only [cut, ih, List.append_assoc]

theorem run_blank (rest : List UInt8) : SqlText.run .code (SqlText.blank :: rest) =
    ((SqlText.run .code rest).1, .symbol SqlText.blank :: (SqlText.run .code rest).2) := rfl

theorem Reads.append (reads : Reads tokens first) (then_reads : Reads others second) :
    Reads (tokens ++ others) (first ++ SqlText.blank :: second) := by
  obtain ⟨pieces, stands, rfl⟩ := reads
  obtain ⟨more, more_stands, rfl⟩ := then_reads
  refine ⟨pieces ++ .symbol SqlText.blank :: more, fun rest => ?_, cut_blank [] pieces more⟩
  rw [List.append_assoc, List.cons_append, stands, run_blank, more_stands]
  simp only [List.append_assoc, List.cons_append]

theorem Reads.lex (reads : Reads tokens first) (ends : lex second = some others) :
    lex (first ++ SqlText.blank :: second) = some (tokens ++ others) := by
  obtain ⟨pieces, stands, rfl⟩ := reads
  obtain ⟨ending, closed, rfl⟩ := Option.map_eq_some_iff.mp ends
  rw [SqlSelect.lex, stands, run_blank]
  simp only [closed, Option.map_some, List.append_assoc, List.cons_append, cut_blank]

theorem reads_plain (plain : ∀ b ∈ first, SqlText.Plain b) :
    Reads (cut [] (first.map .symbol)) first :=
  ⟨_, SqlText.stands_code (SqlText.run_plain plain), rfl⟩

theorem lex_plain (plain : ∀ b ∈ first, SqlText.Plain b) :
    lex first = some (cut [] (first.map .symbol)) := by
  rw [SqlSelect.lex, SqlText.run_plain plain]
  simp only [last, Option.map_some, List.append_nil]

/-- Letters are not of upper case here. -/
def IsWord (text : List UInt8) : Prop :=
  text ≠ [] ∧ ∀ b ∈ text, isWordByte b = true ∧ isUpper b = false

-- A word goes on to the end of its letters.
theorem cut_letters {text : List UInt8}
    (letters : ∀ b ∈ text, isWordByte b = true ∧ isUpper b = false) (word : List UInt8)
    (rest : List Piece) : cut word (text.map .symbol ++ rest) = cut (word ++ text) rest := by
  induction text generalizing word with
  | nil => simp
  | cons b text ih =>
    have same : lowered b = b := by simp [lowered, (letters b (by simp)).2]
    rw [List.map_cons, List.cons_append, cut, if_pos (letters b (by simp)).1, same,
      ih fun c member => letters c (by simp [member])]
    simp

theorem cut_word {text : List UInt8} (word : IsWord text) :
    cut [] (text.map .symbol) = [.word text] := by
  have letters := cut_letters word.2 [] []
  simpa [cut, ended, word.1] using letters

theorem reads_literal {text content : List UInt8} (stands : Stands [.literal content] text) :
    Reads [.literal content] text :=
  ⟨_, stands, rfl⟩

end Texts

/-! ## Statements -/

inductive Expr where
  | name (text : List UInt8)
  | literal (text : List UInt8)
  | minus (inner : Expr)
  | call (function : List UInt8) (arguments : List Expr)

structure Item where
  expr : Expr
  label : Option (List UInt8)

structure Condition where
  left : Expr
  operator : UInt8
  right : Expr

structure Select where
  items : List Item
  table : List UInt8
  /-- One of these holds, with all its conditions. -/
  filter : Option (List (List Condition))
  sampleBy : Option (List UInt8)
  /-- A column, and whether the order is descending. -/
  orderBy : Option (List UInt8 × Bool)
  limit : Option (List UInt8)

/-- Whether the rows of which the conditions hold in that way are picked. -/
def Select.picks (select : Select) (meets : Condition → Bool) : Bool :=
  match select.filter with
  | none => true
  | some filter => filter.any (·.all meets)

/-! ## Reading -/

def keywords : List (List UInt8) :=
  ["select", "from", "where", "and", "or", "as", "sample", "order", "by", "desc", "limit"].map bytes

def isName (word : List UInt8) : Bool := decide (word ∉ keywords)

def isComparison (b : UInt8) : Bool := b = equality || b = below || b = above

-- The number bounds the depth of what is read.
mutual

def expr : Nat → List Token → Option (Expr × List Token)
  | 0, _ => none
  | _ + 1, .literal text :: rest => some (.literal text, rest)
  | n + 1, .symbol b :: rest =>
    if b = SqlText.minus then (expr n rest).map fun (inner, rest) => (.minus inner, rest) else none
  | n + 1, .word text :: rest =>
    if !isName text then none
    else if rest.head? = some (.symbol opening) then
      (arguments n rest.tail).map fun (arguments, rest) => (.call text arguments, rest)
    else some (.name text, rest)
  | _ + 1, _ => none

def arguments : Nat → List Token → Option (List Expr × List Token)
  | 0, _ => none
  | n + 1, tokens =>
    if tokens.head? = some (.symbol closing) then some ([], tokens.tail) else exprs n tokens

def exprs : Nat → List Token → Option (List Expr × List Token)
  | 0, _ => none
  | n + 1, tokens => do
    let (first, rest) ← expr n tokens
    if rest.head? = some (.symbol comma) then
      let (more, rest) ← exprs n rest.tail
      some (first :: more, rest)
    else if rest.head? = some (.symbol closing) then some ([first], rest.tail)
    else none

end

def item (n : Nat) (tokens : List Token) : Option (Item × List Token) := do
  let (expr, rest) ← expr n tokens
  match rest with
  | .word as :: .word label :: behind =>
    if as = bytes "as" then if isName label then some (⟨expr, some label⟩, behind) else none
    else some (⟨expr, none⟩, rest)
  | _ => some (⟨expr, none⟩, rest)

/-- The items up to `FROM`. -/
def items : Nat → List Token → Option (List Item × List Token)
  | 0, _ => none
  | n + 1, tokens => do
    let (first, rest) ← item n tokens
    if rest.head? = some (.symbol comma) then
      let (more, rest) ← items n rest.tail
      some (first :: more, rest)
    else if rest.head? = some (.word (bytes "from")) then some ([first], rest.tail)
    else none

def condition (n : Nat) (tokens : List Token) : Option (Condition × List Token) := do
  let (left, rest) ← expr n tokens
  match rest with
  | .symbol operator :: rest =>
    if isComparison operator then
      let (right, rest) ← expr n rest
      some (⟨left, operator, right⟩, rest)
    else none
  | _ => none

/-- `AND` binds closer than `OR`. -/
def formula : Nat → List Token → Option (List (List Condition) × List Token)
  | 0, _ => none
  | n + 1, tokens => do
    let (first, rest) ← condition n tokens
    if rest.head? = some (.word (bytes "and")) then
      match ← formula n rest.tail with
      | (conditions :: more, rest) => some ((first :: conditions) :: more, rest)
      | ([], _) => none
    else if rest.head? = some (.word (bytes "or")) then
      let (more, rest) ← formula n rest.tail
      some ([first] :: more, rest)
    else some ([[first]], rest)

def filter (n : Nat) (tokens : List Token) :
    Option (Option (List (List Condition)) × List Token) :=
  if tokens.head? = some (.word (bytes "where")) then
    (formula n tokens.tail).map fun (filter, rest) => (some filter, rest)
  else some (none, tokens)

def sampled : List Token → Option (List UInt8) × List Token
  | .word sample :: .word by_word :: .word interval :: rest =>
    if sample = bytes "sample" ∧ by_word = bytes "by" then (some interval, rest)
    else (none, .word sample :: .word by_word :: .word interval :: rest)
  | tokens => (none, tokens)

def ordered : List Token → Option (List UInt8 × Bool) × List Token
  | .word order :: .word by_word :: .word column :: rest =>
    if order = bytes "order" ∧ by_word = bytes "by" then
      if rest.head? = some (.word (bytes "desc")) then (some (column, true), rest.tail)
      else (some (column, false), rest)
    else (none, .word order :: .word by_word :: .word column :: rest)
  | tokens => (none, tokens)

def limited : List Token → Option (List UInt8) × List Token
  | .word limit :: .word number :: rest =>
    if limit = bytes "limit" then (some number, rest)
    else (none, .word limit :: .word number :: rest)
  | tokens => (none, tokens)

def statement (tokens : List Token) : Option Select :=
  match tokens with
  | .word select :: rest =>
    if select = bytes "select" then do
      let depth := 3 * tokens.length
      let (items, rest) ← items depth rest
      match rest with
      | .word table :: rest =>
        if isName table then
          let (filter, rest) ← filter depth rest
          let (sampleBy, rest) := sampled rest
          let (orderBy, rest) := ordered rest
          let (limit, rest) := limited rest
          if rest = [] then some ⟨items, table, filter, sampleBy, orderBy, limit⟩ else none
        else none
      | _ => none
    else none
  | _ => none

def parse (text : List UInt8) : Option Select := (lex text).bind statement

/-! ## Writing -/

mutual

def Expr.tokens : Expr → List Token
  | .name text => [.word text]
  | .literal text => [.literal text]
  | .minus inner => .symbol SqlText.minus :: inner.tokens
  | .call function arguments => .word function :: .symbol opening :: argumentTokens arguments

/-- The arguments and the parenthesis behind them. -/
def argumentTokens : List Expr → List Token
  | [] => [.symbol closing]
  | first :: more => first.tokens ++ moreTokens more

def moreTokens : List Expr → List Token
  | [] => [.symbol closing]
  | next :: more => .symbol comma :: next.tokens ++ moreTokens more

end

mutual

def Expr.Ok : Expr → Prop
  | .name text => isName text = true
  | .literal _ => True
  | .minus inner => inner.Ok
  | .call function arguments => isName function = true ∧ AllOk arguments

def AllOk : List Expr → Prop
  | [] => True
  | first :: more => first.Ok ∧ AllOk more

end

def Item.tokens (item : Item) : List Token :=
  item.expr.tokens ++ match item.label with
    | none => []
    | some label => [.word (bytes "as"), .word label]

def itemTokens : List Item → List Token
  | [] => []
  | [item] => item.tokens ++ [.word (bytes "from")]
  | item :: next :: more => item.tokens ++ .symbol comma :: itemTokens (next :: more)

def Condition.tokens (condition : Condition) : List Token :=
  condition.left.tokens ++ .symbol condition.operator :: condition.right.tokens

def conjunctionTokens : List Condition → List Token
  | [] => []
  | [condition] => condition.tokens
  | condition :: next :: more =>
    condition.tokens ++ .word (bytes "and") :: conjunctionTokens (next :: more)

def formulaTokens : List (List Condition) → List Token
  | [] => []
  | [conjunction] => conjunctionTokens conjunction
  | conjunction :: next :: more =>
    conjunctionTokens conjunction ++ .word (bytes "or") :: formulaTokens (next :: more)

def filterTokens : Option (List (List Condition)) → List Token
  | none => []
  | some filter => .word (bytes "where") :: formulaTokens filter

def sampleTokens : Option (List UInt8) → List Token
  | none => []
  | some interval => [.word (bytes "sample"), .word (bytes "by"), .word interval]

def orderTokens : Option (List UInt8 × Bool) → List Token
  | none => []
  | some (column, false) => [.word (bytes "order"), .word (bytes "by"), .word column]
  | some (column, true) =>
    [.word (bytes "order"), .word (bytes "by"), .word column, .word (bytes "desc")]

def limitTokens : Option (List UInt8) → List Token
  | none => []
  | some number => [.word (bytes "limit"), .word number]

def Select.clauses (select : Select) : List Token :=
  sampleTokens select.sampleBy ++ (orderTokens select.orderBy ++ limitTokens select.limit)

def Select.tokens (select : Select) : List Token :=
  .word (bytes "select") :: (itemTokens select.items ++
    .word select.table :: (filterTokens select.filter ++ select.clauses))

def Condition.Ok (condition : Condition) : Prop :=
  condition.left.Ok ∧ condition.right.Ok ∧ isComparison condition.operator = true

def Item.Ok (item : Item) : Prop :=
  item.expr.Ok ∧ ∀ label, item.label = some label → isName label = true

theorem conjunctionTokens_append {given : List Condition} (some_condition : given ≠ [])
    (more : List Condition) : conjunctionTokens (given ++ more) =
      conjunctionTokens given ++ more.flatMap fun condition =>
        .word (bytes "and") :: condition.tokens := by
  induction given with
  | nil => exact absurd rfl some_condition
  | cons first rest ih =>
    cases rest with
    | nil =>
      clear ih
      induction more generalizing first with
      | nil => simp
      | cons next more ih =>
        have later := ih next (by simp)
        have first_then : conjunctionTokens ([first] ++ next :: more) =
            first.tokens ++ .word (bytes "and") :: conjunctionTokens ([next] ++ more) := rfl
        rw [first_then, later, List.flatMap_cons]
        simp [conjunctionTokens]
    | cons next rest =>
      have later := ih (by simp)
      simp only [List.cons_append, conjunctionTokens, List.append_assoc] at later ⊢
      rw [later]

structure Select.Ok (select : Select) : Prop where
  items : select.items ≠ [] ∧ ∀ item ∈ select.items, item.Ok
  table : isName select.table = true
  filter : ∀ filter, select.filter = some filter →
    filter ≠ [] ∧ ∀ conjunction ∈ filter, conjunction ≠ [] ∧ ∀ condition ∈ conjunction, condition.Ok

/-! ## What is written is read -/

section Expressions

theorem head_append {tokens rest : List Token} {token : Token}
    (first : tokens.head? = some token) : (tokens ++ rest).head? = some token := by
  cases tokens with
  | nil => cases first
  | cons other tokens => exact first

theorem head_moreTokens (more : List Expr) (rest : List Token) :
    (moreTokens more ++ rest).head? ≠ some (.symbol opening) := by
  cases more with
  | nil => simp [moreTokens, closing, opening]
  | cons next more => simp [moreTokens, comma, opening]

theorem head_tokens_ne_closing (e : Expr) (rest : List Token) :
    (e.tokens ++ rest).head? ≠ some (.symbol closing) := by
  cases e <;> simp [Expr.tokens, SqlText.minus, closing]

mutual

theorem expr_tokens : ∀ (e : Expr) (n : Nat) (rest : List Token), e.Ok →
    3 * e.tokens.length ≤ n → rest.head? ≠ some (.symbol opening) →
      expr n (e.tokens ++ rest) = some (e, rest)
  | .name text, n, rest, ok, enough, ends => by
    obtain ⟨n, rfl⟩ : ∃ m, n = m + 1 := ⟨n - 1, by simp [Expr.tokens] at enough; omega⟩
    have name : isName text = true := ok
    rw [Expr.tokens, List.singleton_append, expr, if_neg (by simp [name]), if_neg ends]
  | .literal text, n, rest, _, enough, _ => by
    obtain ⟨n, rfl⟩ : ∃ m, n = m + 1 := ⟨n - 1, by simp [Expr.tokens] at enough; omega⟩
    rw [Expr.tokens, List.singleton_append, expr]
  | .minus inner, n, rest, ok, enough, ends => by
    rw [Expr.tokens, List.length_cons] at enough
    obtain ⟨n, rfl⟩ : ∃ m, n = m + 1 := ⟨n - 1, by omega⟩
    rw [Expr.tokens, List.cons_append, expr, if_pos rfl,
      expr_tokens inner n rest ok (by omega) ends, Option.map_some]
  | .call function args, n, rest, ok, enough, _ => by
    rw [Expr.tokens, List.length_cons, List.length_cons] at enough
    obtain ⟨n, rfl⟩ : ∃ m, n = m + 1 := ⟨n - 1, by omega⟩
    have name : isName function = true := ok.1
    rw [Expr.tokens, List.cons_append, List.cons_append, expr, if_neg (by simp [name]),
      if_pos List.head?_cons, List.tail_cons, arguments_tokens args n rest ok.2 (by omega),
      Option.map_some]

theorem arguments_tokens : ∀ (args : List Expr) (n : Nat) (rest : List Token), AllOk args →
    3 * (argumentTokens args).length + 2 ≤ n →
      arguments n (argumentTokens args ++ rest) = some (args, rest)
  | [], n, rest, _, enough => by
    obtain ⟨n, rfl⟩ : ∃ m, n = m + 1 := ⟨n - 1, by omega⟩
    rw [argumentTokens, List.singleton_append, arguments, if_pos List.head?_cons,
      List.tail_cons]
  | first :: more, n, rest, ok, enough => by
    rw [argumentTokens, List.length_append] at enough
    obtain ⟨n, rfl⟩ : ∃ m, n = m + 1 := ⟨n - 1, by omega⟩
    rw [argumentTokens, arguments, List.append_assoc, if_neg (head_tokens_ne_closing _ _)]
    exact exprs_tokens first more n rest ok.1 ok.2 (by omega)

theorem exprs_tokens : ∀ (first : Expr) (more : List Expr) (n : Nat) (rest : List Token), first.Ok →
    AllOk more → 3 * (first.tokens.length + (moreTokens more).length) + 1 ≤ n →
      exprs n (first.tokens ++ (moreTokens more ++ rest)) = some (first :: more, rest)
  | first, [], n, rest, ok, _, enough => by
    obtain ⟨n, rfl⟩ : ∃ m, n = m + 1 := ⟨n - 1, by omega⟩
    have read := expr_tokens first n (moreTokens [] ++ rest) ok (by omega) (head_moreTokens _ _)
    simp only [exprs, read, Option.bind_eq_bind, Option.bind_some]
    rfl
  | first, next :: more, n, rest, ok, others, enough => by
    simp only [moreTokens, List.length_append, List.length_cons] at enough
    obtain ⟨n, rfl⟩ : ∃ m, n = m + 1 := ⟨n - 1, by omega⟩
    have read := expr_tokens first n (moreTokens (next :: more) ++ rest) ok (by omega)
      (head_moreTokens _ _)
    have later := exprs_tokens next more n rest others.1 others.2 (by omega)
    have behind : moreTokens (next :: more) ++ rest =
        .symbol comma :: (next.tokens ++ (moreTokens more ++ rest)) := by
      simp only [moreTokens, List.cons_append, List.append_assoc]
    rw [behind] at read ⊢
    simp only [exprs, read, Option.bind_eq_bind, Option.bind_some, List.head?_cons, if_true,
      List.tail_cons, later]

end

end Expressions

section Items

/-- What an item may stand before. -/
def EndsItem (rest : List Token) : Prop :=
  rest.head? = some (.symbol comma) ∨ rest.head? = some (.word (bytes "from"))

theorem EndsItem.not_opening {rest : List Token} (ends : EndsItem rest) :
    rest.head? ≠ some (.symbol opening) := by
  rcases ends with head | head <;> rw [head] <;> simp [comma, opening]

theorem item_tokens (given : Item) (n : Nat) (rest : List Token) (ok : given.Ok)
    (enough : 3 * given.tokens.length ≤ n) (ends : EndsItem rest) :
    item n (given.tokens ++ rest) = some (given, rest) := by
  obtain ⟨e, label⟩ := given
  cases label with
  | none =>
    rw [Item.tokens, List.append_nil] at enough ⊢
    rw [item, expr_tokens e n rest ok.1 enough ends.not_opening]
    simp only [Option.bind_eq_bind, Option.bind_some]
    split
    · next as label behind =>
      have other : as ≠ bytes "as" := by
        rcases ends with head | head
        · cases head
        · obtain rfl := Token.word.inj (Option.some.inj head)
          decide
      rw [if_neg other]
    · rfl
  | some label =>
    have name : isName label = true := ok.2 label rfl
    have short : 3 * (e.tokens.length + 2) ≤ n := by
      simpa only [Item.tokens, List.length_append, List.length_cons, List.length_nil] using enough
    have read := expr_tokens e n (.word (bytes "as") :: .word label :: rest) ok.1 (by omega)
      (by simp)
    simp only [Item.tokens, List.append_assoc, List.cons_append, List.nil_append, item, read,
      Option.bind_eq_bind, Option.bind_some, if_true, name]

theorem items_tokens (given : List Item) (n : Nat) (rest : List Token) (some_item : given ≠ [])
    (ok : ∀ item ∈ given, item.Ok) (enough : 3 * (itemTokens given).length + 1 ≤ n) :
    items n (itemTokens given ++ rest) = some (given, rest) := by
  induction given generalizing n with
  | nil => exact absurd rfl some_item
  | cons first more ih =>
    cases more with
    | nil =>
      rw [itemTokens, List.length_append] at enough
      obtain ⟨n, rfl⟩ : ∃ m, n = m + 1 := ⟨n - 1, by omega⟩
      have read := item_tokens first n (.word (bytes "from") :: rest) (ok first (by simp))
        (by omega) (.inr rfl)
      simp only [itemTokens, List.append_assoc, List.singleton_append, items, read,
        Option.bind_eq_bind, Option.bind_some, List.head?_cons, List.tail_cons, if_true]
      rfl
    | cons next more =>
      rw [itemTokens, List.length_append, List.length_cons] at enough
      obtain ⟨n, rfl⟩ : ∃ m, n = m + 1 := ⟨n - 1, by omega⟩
      have read := item_tokens first n (.symbol comma :: (itemTokens (next :: more) ++ rest))
        (ok first (by simp)) (by omega) (.inl rfl)
      have later := ih n (by simp) (fun item member => ok item (by simp [member])) (by omega)
      simp only [itemTokens, List.append_assoc, List.cons_append, items, read,
        Option.bind_eq_bind, Option.bind_some, List.head?_cons, List.tail_cons, if_true, later]

end Items

section Formulas

variable {rest final : List Token} {others : List (List Condition)}

theorem condition_tokens (given : Condition) (n : Nat) (rest : List Token) (ok : given.Ok)
    (enough : 3 * given.tokens.length ≤ n) (ends : rest.head? ≠ some (.symbol opening)) :
    condition n (given.tokens ++ rest) = some (given, rest) := by
  obtain ⟨left_ok, right_ok, comparison⟩ := ok
  rw [Condition.tokens, List.length_append, List.length_cons] at enough
  have no_call : isComparison opening = false := rfl
  have left := expr_tokens given.left n (.symbol given.operator :: (given.right.tokens ++ rest))
    left_ok (by omega) (by
      simp only [List.head?_cons, ne_eq, Option.some.injEq, Token.symbol.injEq]
      rintro same
      rw [same, no_call] at comparison
      cases comparison)
  have right := expr_tokens given.right n rest right_ok (by omega) ends
  simp only [Condition.tokens, List.append_assoc, List.cons_append, condition, left,
    Option.bind_eq_bind, Option.bind_some, comparison, if_true, right]

/-- What a formula may stand before. -/
def EndsFormula (rest : List Token) : Prop :=
  rest.head? ≠ some (.symbol opening) ∧ rest.head? ≠ some (.word (bytes "and")) ∧
    rest.head? ≠ some (.word (bytes "or"))

-- A conjunction is read if its last condition is.
theorem conjunction_tokens (bound : Nat)
    (single : ∀ last n, Condition.Ok last → 3 * last.tokens.length + bound ≤ n →
      formula n (last.tokens ++ rest) = some ([last] :: others, final))
    (conjunction : List Condition) (n : Nat) (some_condition : conjunction ≠ [])
    (ok : ∀ condition ∈ conjunction, condition.Ok)
    (enough : 3 * (conjunctionTokens conjunction).length + bound ≤ n) :
    formula n (conjunctionTokens conjunction ++ rest) = some (conjunction :: others, final) := by
  induction conjunction generalizing n with
  | nil => exact absurd rfl some_condition
  | cons first more ih =>
    cases more with
    | nil => exact single first n (ok first (by simp)) enough
    | cons next more =>
      rw [conjunctionTokens, List.length_append, List.length_cons] at enough
      obtain ⟨n, rfl⟩ : ∃ m, n = m + 1 := ⟨n - 1, by omega⟩
      have read := condition_tokens first n
        (.word (bytes "and") :: (conjunctionTokens (next :: more) ++ rest))
        (ok first (by simp)) (by omega) (by simp)
      have later := ih n (by simp) (fun condition member => ok condition (by simp [member]))
        (by omega)
      simp only [conjunctionTokens, List.append_assoc, List.cons_append, formula, read,
        Option.bind_eq_bind, Option.bind_some, List.head?_cons, List.tail_cons, if_true, later]

theorem formula_tokens (given : List (List Condition)) (n : Nat) (some_conjunction : given ≠ [])
    (ok : ∀ conjunction ∈ given, conjunction ≠ [] ∧ ∀ condition ∈ conjunction, condition.Ok)
    (enough : 3 * (formulaTokens given).length + 1 ≤ n) (ends : EndsFormula rest) :
    formula n (formulaTokens given ++ rest) = some (given, rest) := by
  induction given generalizing n with
  | nil => exact absurd rfl some_conjunction
  | cons conjunction more ih =>
    obtain ⟨some_condition, all_ok⟩ := ok conjunction (by simp)
    cases more with
    | nil =>
      refine conjunction_tokens 1 (fun last n last_ok enough => ?_) conjunction n
        some_condition all_ok enough
      obtain ⟨n, rfl⟩ : ∃ m, n = m + 1 := ⟨n - 1, by omega⟩
      have read := condition_tokens last n rest last_ok (by omega) ends.1
      simp only [formula, read, Option.bind_eq_bind, Option.bind_some, if_neg ends.2.1,
        if_neg ends.2.2]
    | cons next more =>
      rw [formulaTokens, List.length_append, List.length_cons] at enough
      rw [formulaTokens, List.append_assoc, List.cons_append]
      refine conjunction_tokens (3 * (formulaTokens (next :: more)).length + 4)
        (fun last n last_ok enough => ?_) conjunction n some_condition all_ok (by omega)
      obtain ⟨n, rfl⟩ : ∃ m, n = m + 1 := ⟨n - 1, by omega⟩
      have read := condition_tokens last n
        (.word (bytes "or") :: (formulaTokens (next :: more) ++ rest)) last_ok (by omega)
        (by simp)
      have later := ih n (by simp) (fun other member => ok other (by simp [member])) (by omega)
      have no_and : bytes "or" ≠ bytes "and" := by decide
      simp only [formula, read, Option.bind_eq_bind, Option.bind_some, List.head?_cons,
        List.tail_cons, Option.some.injEq, Token.word.injEq, no_and, if_false, if_true, later]

end Formulas

section Statements

variable {select : Select}

theorem head_clauses (select : Select) :
    select.clauses = [] ∨ ∃ word rest, select.clauses = .word word :: rest ∧
      word ∈ ["sample", "order", "limit"].map bytes := by
  obtain ⟨_, _, _, sampleBy, orderBy, limit⟩ := select
  cases sampleBy with
  | some interval => exact .inr ⟨_, _, rfl, by simp⟩
  | none =>
    rcases orderBy with _ | ⟨column, _ | _⟩
    · cases limit with
      | none => exact .inl rfl
      | some number => exact .inr ⟨_, _, rfl, by simp⟩
    · exact .inr ⟨_, _, rfl, by simp⟩
    · exact .inr ⟨_, _, rfl, by simp⟩

theorem clauses_end (select : Select) : EndsFormula select.clauses := by
  rcases head_clauses select with none | ⟨word, rest, clauses, known⟩
  · rw [none]
    exact ⟨nofun, nofun, nofun⟩
  · rw [clauses]
    have others : ∀ word ∈ ["sample", "order", "limit"].map bytes,
        word ≠ bytes "and" ∧ word ≠ bytes "or" := by decide
    exact ⟨by simp, by simpa using (others word known).1, by simpa using (others word known).2⟩

theorem filter_tokens (n : Nat) (ok : select.Ok)
    (enough : 3 * (filterTokens select.filter).length + 1 ≤ n) :
    filter n (filterTokens select.filter ++ select.clauses) =
      some (select.filter, select.clauses) := by
  cases given : select.filter with
  | none =>
    have no_where : select.clauses.head? ≠ some (.word (bytes "where")) := by
      rcases head_clauses select with none | ⟨word, rest, clauses, known⟩
      · simp [none]
      · have others : ∀ word ∈ ["sample", "order", "limit"].map bytes, word ≠ bytes "where" := by
          decide
        simpa [clauses] using others word known
    rw [filterTokens, List.nil_append, filter, if_neg no_where]
  | some conjunctions =>
    rw [given, filterTokens, List.length_cons] at enough
    obtain ⟨some_conjunction, all_ok⟩ := ok.filter conjunctions given
    rw [filterTokens, List.cons_append, filter, if_pos List.head?_cons, List.tail_cons,
      formula_tokens conjunctions n some_conjunction all_ok (by omega) (clauses_end select),
      Option.map_some]

theorem sampled_clauses : sampled select.clauses =
    (select.sampleBy, orderTokens select.orderBy ++ limitTokens select.limit) := by
  obtain ⟨_, _, _, sampleBy, orderBy, limit⟩ := select
  cases sampleBy with
  | some interval => rfl
  | none =>
    rcases orderBy with _ | ⟨column, _ | _⟩
    · cases limit <;> rfl
    · rfl
    · rfl

theorem ordered_tokens (orderBy : Option (List UInt8 × Bool)) (limit : Option (List UInt8)) :
    ordered (orderTokens orderBy ++ limitTokens limit) = (orderBy, limitTokens limit) := by
  rcases orderBy with _ | ⟨column, _ | _⟩
  · cases limit <;> rfl
  · cases limit <;> rfl
  · rfl

theorem limited_tokens (limit : Option (List UInt8)) :
    limited (limitTokens limit) = (limit, []) := by
  cases limit <;> rfl

/-- A statement is read as it was written. -/
theorem statement_tokens (ok : select.Ok) : statement select.tokens = some select := by
  have length : select.tokens.length = (itemTokens select.items).length +
      (filterTokens select.filter).length + select.clauses.length + 2 := by
    simp only [Select.tokens, List.length_cons, List.length_append]
    omega
  have listed := items_tokens select.items (3 * select.tokens.length)
    (.word select.table :: (filterTokens select.filter ++ select.clauses)) ok.items.1 ok.items.2
    (by omega)
  have filtered := filter_tokens (3 * select.tokens.length) ok (by omega)
  have written : select.tokens = .word (bytes "select") :: (itemTokens select.items ++
      .word select.table :: (filterTokens select.filter ++ select.clauses)) := rfl
  rw [written] at listed filtered ⊢
  simp only [statement, if_true, listed, Option.bind_eq_bind, Option.bind_some, ok.table, filtered,
    sampled_clauses, ordered_tokens, limited_tokens]

end Statements

end SqlSelect
