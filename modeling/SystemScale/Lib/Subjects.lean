import Mathlib.Data.List.Basic

set_option autoImplicit false

/-!
# Subjects of a message router

A subject is a text of tokens with dots between them. In a subscription `*` stands for one token
and a last `>` for one or more.
-/

namespace Subjects

def tokens (subject : String) : List (List Char) := subject.toList.splitOn '.'

inductive Part where
  | literal (token : List Char)
  | one
  | rest
  deriving DecidableEq

def part (token : List Char) : Part :=
  if token = ['*'] then .one else if token = ['>'] then .rest else .literal token

def matchParts : List Part → List (List Char) → Bool
  | [], [] => true
  | .literal token :: parts, first :: others => first = token && matchParts parts others
  | .one :: parts, _ :: others => matchParts parts others
  | [.rest], _ :: _ => true
  | _, _ => false

/-- The subscription gets messages on the subject. -/
def delivers (subscription subject : String) : Bool :=
  matchParts ((tokens subscription).map part) (tokens subject)

theorem tokens_plain {text : String} (plain : '.' ∉ text.toList) : tokens text = [text.toList] :=
  List.splitOn_eq_singleton plain

theorem tokens_join (first second : String) :
    tokens (first ++ "." ++ second) = tokens first ++ tokens second := by
  have dot : (first ++ "." ++ second).toList = first.toList ++ '.' :: second.toList := by
    simp [String.toList_append]
  rw [tokens, dot, List.splitOn_append_cons_self]
  rfl

theorem tokens_dotted {text : String} (dotted : '.' ∈ text.toList) :
    ∃ first second others, tokens text = first :: second :: others := by
  obtain ⟨before, after, split⟩ := List.append_of_mem dotted
  have parts : tokens text = before.splitOn '.' ++ after.splitOn '.' := by
    rw [tokens, split, List.splitOn_append_cons_self]
  obtain ⟨first, others, left⟩ := List.exists_cons_of_ne_nil (List.splitOn_ne_nil '.' before)
  obtain ⟨second, rest, right⟩ := List.exists_cons_of_ne_nil (List.splitOn_ne_nil '.' after)
  rw [parts, left, right]
  cases others with
  | nil => exact ⟨first, second, rest, rfl⟩
  | cons third others => exact ⟨first, third, others ++ second :: rest, rfl⟩

theorem delivers_between {subscription before after : String}
    (parts : (tokens subscription).map part =
      [.literal before.toList, .one, .literal after.toList])
    (plain_before : '.' ∉ before.toList) (plain_after : '.' ∉ after.toList) (text : String) :
    delivers subscription (before ++ "." ++ text ++ "." ++ after) = true ↔ '.' ∉ text.toList := by
  have split : tokens (before ++ "." ++ text ++ "." ++ after) =
      before.toList :: (tokens text ++ [after.toList]) := by
    rw [tokens_join, tokens_join, tokens_plain plain_before, tokens_plain plain_after]
    rfl
  rw [delivers, parts, split]
  constructor
  · intro got dotted
    obtain ⟨first, second, others, is⟩ := tokens_dotted dotted
    rw [is] at got
    cases others <;> simp [matchParts] at got
  · intro plain
    simp [tokens_plain plain, matchParts]

/-! ## Literal subscriptions and others -/

theorem not_mem_tokens {subject : String} {token : List Char} (member : token ∈ tokens subject) :
    '.' ∉ token := by
  unfold tokens at member
  generalize subject.toList = text at member
  induction text generalizing token with
  | nil =>
    rw [List.splitOn_nil, List.mem_singleton] at member
    simp [member]
  | cons c rest ih =>
    rw [List.splitOn_cons_eq_if_modifyHead] at member
    split_ifs at member with dot
    · rcases List.mem_cons.mp member with rfl | there
      · simp
      · exact ih there
    · obtain ⟨first, others, is⟩ := List.exists_cons_of_ne_nil (List.splitOn_ne_nil '.' rest)
      rw [is, List.modifyHead_cons] at member
      rw [is] at ih
      rcases List.mem_cons.mp member with rfl | there
      · have other : c ≠ '.' := by simpa using dot
        simpa [other.symm] using ih (List.mem_cons_self)
      · exact ih (List.mem_cons_of_mem _ there)

theorem tokens_inj {first second : String} (same : tokens first = tokens second) :
    first = second := by
  have joined := congrArg (['.'].intercalate ·) same
  simp only [tokens, List.intercalate_splitOn] at joined
  exact String.toList_inj.mp joined

theorem part_literal {token text : List Char} (is : part token = .literal text) : token = text := by
  unfold part at is
  split_ifs at is
  exact Part.literal.inj is

/-- A `>` that is not the last token. The subscription matches no subject. -/
def Dead (parts : List Part) : Prop := .rest ∈ parts.dropLast

/-- Some token is a wildcard, and the subscription is not dead. -/
def Wild (parts : List Part) : Prop := ¬Dead parts ∧ (.one ∈ parts ∨ .rest ∈ parts)

instance (parts : List Part) : Decidable (Dead parts) := inferInstanceAs (Decidable (_ ∈ _))

instance (parts : List Part) : Decidable (Wild parts) := inferInstanceAs (Decidable (_ ∧ _))

theorem dead_cons (first : Part) {parts : List Part} (nonempty : parts ≠ []) :
    Dead (first :: parts) ↔ first = .rest ∨ Dead parts := by
  rw [Dead, List.dropLast_cons_of_ne_nil nonempty, List.mem_cons, eq_comm]
  rfl

theorem matchParts_dead {parts : List Part} {texts : List (List Char)} (dead : Dead parts) :
    matchParts parts texts = false := by
  induction parts generalizing texts with
  | nil => simp [Dead] at dead
  | cons first parts ih =>
    have nonempty : parts ≠ [] := by
      rintro rfl
      simp [Dead] at dead
    rw [dead_cons first nonempty] at dead
    cases texts with
    | nil => cases first <;> simp [matchParts]
    | cons text texts =>
      cases first with
      | literal token =>
        have live := dead.resolve_left (by simp)
        simp [matchParts, ih live]
      | one =>
        have live := dead.resolve_left (by simp)
        simp [matchParts, ih live]
      | rest =>
        obtain ⟨second, others, rfl⟩ := List.exists_cons_of_ne_nil nonempty
        rfl

theorem matchParts_tame {parts : List Part} {texts : List (List Char)} (tame : ¬Wild parts)
    (got : matchParts parts texts = true) : parts = texts.map .literal := by
  have live : ¬Dead parts := by
    intro dead
    rw [matchParts_dead dead] at got
    cases got
  have plain : .one ∉ parts ∧ .rest ∉ parts := by
    rw [← not_or]
    exact fun wild => tame ⟨live, wild⟩
  clear tame live
  induction parts generalizing texts with
  | nil =>
    cases texts with
    | nil => rfl
    | cons => cases got
  | cons first parts ih =>
    simp only [List.mem_cons, not_or] at plain
    cases first with
    | literal token =>
      cases texts with
      | nil => cases got
      | cons text texts =>
        simp only [matchParts, Bool.and_eq_true, decide_eq_true_eq] at got
        rw [List.map_cons, got.1, ← ih got.2 ⟨plain.1.2, plain.2.2⟩]
    | one => exact absurd rfl plain.1.1
    | rest => exact absurd rfl plain.2.1

-- Without wildcards a subscription gets its own subject and no other.
theorem delivers_tame {subscription subject : String}
    (tame : ¬Wild ((tokens subscription).map part)) (got : delivers subscription subject = true) :
    subject = subscription := by
  have literal := matchParts_tame tame got
  have lists (xs ys : List (List Char)) (same : xs.map part = ys.map .literal) : xs = ys := by
    induction xs generalizing ys with
    | nil => simpa using same.symm
    | cons x xs ih =>
      cases ys with
      | nil => simp at same
      | cons y ys =>
        obtain ⟨head, tail⟩ := List.cons.inj same
        rw [part_literal head, ih ys tail]
  exact (tokens_inj (lists _ _ literal)).symm

/-- A text in the place of a wildcard. -/
def Part.fill (filler : List Char) : Part → List Char
  | .literal token => token
  | _ => filler

theorem matchParts_fill (filler : List Char) {parts : List Part} (live : ¬Dead parts) :
    matchParts parts (parts.map (Part.fill filler)) = true := by
  induction parts with
  | nil => rfl
  | cons first parts ih =>
    by_cases last : parts = []
    · subst last
      cases first <;> simp [matchParts, Part.fill]
    · rw [dead_cons first last, not_or] at live
      cases first with
      | literal token => simp [matchParts, Part.fill, ih live.2]
      | one => simp [matchParts, ih live.2]
      | rest => exact absurd rfl live.1

theorem length_le_intercalate {text : List Char} {texts : List (List Char)} (member : text ∈ texts) :
    text.length ≤ (['.'].intercalate texts).length := by
  induction texts with
  | nil => simp at member
  | cons first rest ih =>
    cases rest with
    | nil =>
      rw [List.mem_singleton.mp member]
      simp
    | cons second rest =>
      rw [List.intercalate_cons_cons, List.length_append, List.length_append]
      rcases List.mem_cons.mp member with rfl | there
      · omega
      · have := ih there
        omega

-- With a wildcard it gets subjects of any length.
theorem delivers_wild {subscription : String} (wild : Wild ((tokens subscription).map part))
    (bound : Nat) : ∃ subject, bound < subject.length ∧ delivers subscription subject = true := by
  obtain ⟨texts, are⟩ : ∃ texts, texts =
      ((tokens subscription).map part).map (Part.fill (List.replicate (bound + 1) 'x')) := ⟨_, rfl⟩
  have undotted : ∀ text ∈ texts, '.' ∉ text := by
    intro text member
    rw [are] at member
    obtain ⟨piece, there, rfl⟩ := List.mem_map.mp member
    cases piece with
    | literal token =>
      obtain ⟨word, among, is⟩ := List.mem_map.mp there
      exact part_literal is ▸ not_mem_tokens among
    | one => simp [Part.fill, List.mem_replicate]
    | rest => simp [Part.fill, List.mem_replicate]
  have long : List.replicate (bound + 1) 'x' ∈ texts := by
    rw [are]
    rcases wild.2 with one | rest
    · exact List.mem_map.mpr ⟨_, one, rfl⟩
    · exact List.mem_map.mpr ⟨_, rest, rfl⟩
  refine ⟨String.ofList (['.'].intercalate texts), ?_, ?_⟩
  · have bounded := length_le_intercalate long
    rw [List.length_replicate] at bounded
    rw [← String.length_toList, String.toList_ofList]
    omega
  · have parts : tokens (String.ofList (['.'].intercalate texts)) = texts := by
      rw [tokens, String.toList_ofList]
      exact List.splitOn_intercalate '.' undotted (List.ne_nil_of_mem long)
    rw [delivers, parts, are]
    exact matchParts_fill _ wild.1

end Subjects
