import Mathlib.Data.List.Basic

set_option autoImplicit false

/-!
# UTF-8 with replacement

`lossy` reads any byte string: a sequence that encodes no character becomes U+FFFD, one for each
maximal prefix of a character, as the Unicode standard recommends.
-/

namespace Utf8

def encode (text : String) : List UInt8 := text.toList.flatMap String.utf8EncodeChar

def width (lead : Nat) : Nat :=
  if lead < 0x80 then 1 else if lead < 0xC2 then 0 else if lead < 0xE0 then 2
  else if lead < 0xF0 then 3 else if lead < 0xF5 then 4 else 0

/-- The bytes that may follow a lead byte. Overlong forms, surrogates and numbers past U+10FFFF
are all excluded here. -/
def second (lead byte : Nat) : Bool :=
  if lead = 0xE0 then decide (0xA0 ≤ byte ∧ byte ≤ 0xBF)
  else if lead = 0xED then decide (0x80 ≤ byte ∧ byte ≤ 0x9F)
  else if lead = 0xF0 then decide (0x90 ≤ byte ∧ byte ≤ 0xBF)
  else if lead = 0xF4 then decide (0x80 ≤ byte ∧ byte ≤ 0x8F)
  else decide (0x80 ≤ byte ∧ byte ≤ 0xBF)

def tail (byte : Nat) : Bool := decide (0x80 ≤ byte ∧ byte ≤ 0xBF)

/-- The character that starts with byte `lead`, if there is one, and how many of the following
bytes it takes. -/
def decodeOne (lead : Nat) (following : List Nat) : Option Char × Nat :=
  match width lead, following with
  | 1, _ => (some (Char.ofNat lead), 0)
  | 2, a :: _ =>
    if second lead a then (some (Char.ofNat (lead % 32 * 64 + a % 64)), 1) else (none, 0)
  | 3, a :: b :: _ =>
    if second lead a then
      if tail b then (some (Char.ofNat (lead % 16 * 4096 + a % 64 * 64 + b % 64)), 2)
      else (none, 1)
    else (none, 0)
  | 4, a :: b :: c :: _ =>
    if second lead a then
      if tail b then
        if tail c then
          (some (Char.ofNat (lead % 8 * 262144 + a % 64 * 4096 + b % 64 * 64 + c % 64)), 3)
        else (none, 2)
      else (none, 1)
    else (none, 0)
  -- The input ends inside a character: its good prefix is one replacement.
  | 3, [a] => if second lead a then (none, 1) else (none, 0)
  | 4, [a] => if second lead a then (none, 1) else (none, 0)
  | 4, [a, b] => if second lead a then if tail b then (none, 2) else (none, 1) else (none, 0)
  | _, _ => (none, 0)

def lossyLoop : Nat → List Nat → List Char
  | 0, _ => []
  | _ + 1, [] => []
  | fuel + 1, lead :: following =>
    let (character, taken) := decodeOne lead following
    character.getD '\uFFFD' :: lossyLoop fuel (following.drop taken)

def lossy (bytes : List UInt8) : String :=
  String.ofList (lossyLoop bytes.length (bytes.map UInt8.toNat))

def codes (character : Char) : List Nat := (String.utf8EncodeChar character).map UInt8.toNat

theorem character_range (character : Char) :
    character.toNat < 0xD800 ∨ 0xDFFF < character.toNat ∧ character.toNat < 0x110000 :=
  character.valid

theorem codes_eq (character : Char) :
    codes character =
      if character.toNat ≤ 0x7F then [character.toNat]
      else if character.toNat ≤ 0x7FF then
        [character.toNat / 64 + 0xC0, character.toNat % 64 + 0x80]
      else if character.toNat ≤ 0xFFFF then
        [character.toNat / 4096 + 0xE0, character.toNat / 64 % 64 + 0x80,
          character.toNat % 64 + 0x80]
      else
        [character.toNat / 262144 + 0xF0, character.toNat / 4096 % 64 + 0x80,
          character.toNat / 64 % 64 + 0x80, character.toNat % 64 + 0x80] := by
  have range := character_range character
  have value : character.val.toNat = character.toNat := rfl
  unfold codes String.utf8EncodeChar
  simp only [value]
  split_ifs <;> simp <;> omega

section Widths

variable {value : Nat}

theorem decodeOne_two (large : 0x7F < value) (small : value ≤ 0x7FF) (rest : List Nat) :
    decodeOne (value / 64 + 0xC0) ((value % 64 + 0x80) :: rest) = (some (Char.ofNat value), 1) := by
  have two : width (value / 64 + 0xC0) = 2 := by unfold width; split_ifs <;> omega
  have next : second (value / 64 + 0xC0) (value % 64 + 0x80) := by
    unfold second
    split_ifs <;> simp <;> omega
  have whole : (value / 64 + 0xC0) % 32 * 64 + (value % 64 + 0x80) % 64 = value := by omega
  simp only [decodeOne, two, next, if_true, whole]

theorem decodeOne_three (large : 0x7FF < value) (small : value ≤ 0xFFFF)
    (scalar : value < 0xD800 ∨ 0xDFFF < value) (rest : List Nat) :
    decodeOne (value / 4096 + 0xE0)
        ((value / 64 % 64 + 0x80) :: (value % 64 + 0x80) :: rest) =
      (some (Char.ofNat value), 2) := by
  have three : width (value / 4096 + 0xE0) = 3 := by unfold width; split_ifs <;> omega
  have next : second (value / 4096 + 0xE0) (value / 64 % 64 + 0x80) := by
    unfold second
    split_ifs <;> simp <;> omega
  have last : tail (value % 64 + 0x80) := by simp [tail]; omega
  have whole : (value / 4096 + 0xE0) % 16 * 4096 + (value / 64 % 64 + 0x80) % 64 * 64 +
      (value % 64 + 0x80) % 64 = value := by omega
  simp only [decodeOne, three, next, last, if_true, whole]

theorem decodeOne_four (large : 0xFFFF < value) (small : value < 0x110000) (rest : List Nat) :
    decodeOne (value / 262144 + 0xF0) ((value / 4096 % 64 + 0x80) ::
        (value / 64 % 64 + 0x80) :: (value % 64 + 0x80) :: rest) = (some (Char.ofNat value), 3) := by
  have four : width (value / 262144 + 0xF0) = 4 := by unfold width; split_ifs <;> omega
  have next : second (value / 262144 + 0xF0) (value / 4096 % 64 + 0x80) := by
    unfold second
    split_ifs <;> simp <;> omega
  have third : tail (value / 64 % 64 + 0x80) := by simp [tail]; omega
  have last : tail (value % 64 + 0x80) := by simp [tail]; omega
  have whole : (value / 262144 + 0xF0) % 8 * 262144 + (value / 4096 % 64 + 0x80) % 64 * 4096 +
      (value / 64 % 64 + 0x80) % 64 * 64 + (value % 64 + 0x80) % 64 = value := by omega
  simp only [decodeOne, four, next, third, last, if_true, whole]

end Widths

theorem decodeOne_codes (character : Char) :
    ∃ lead following, codes character = lead :: following ∧ ∀ rest,
      decodeOne lead (following ++ rest) = (some character, following.length) := by
  have range := character_range character
  have self : Char.ofNat character.toNat = character := Char.ofNat_toNat character
  rw [codes_eq]
  split_ifs with one two three
  · refine ⟨_, _, rfl, fun rest => ?_⟩
    have width_one : width character.toNat = 1 := by unfold width; split_ifs <;> omega
    simp only [decodeOne, width_one, self, List.length_nil]
  · refine ⟨_, _, rfl, fun rest => ?_⟩
    rw [List.singleton_append, decodeOne_two (by omega) two, self]
    rfl
  · refine ⟨_, _, rfl, fun rest => ?_⟩
    have read := decodeOne_three (by omega) three (by omega) rest
    rw [self] at read
    exact read
  · refine ⟨_, _, rfl, fun rest => ?_⟩
    have large : 0xFFFF < character.toNat := by omega
    have read := decodeOne_four large (by omega) rest
    rw [self] at read
    exact read

theorem lossyLoop_codes (characters : List Char) (fuel : Nat)
    (enough : (characters.flatMap codes).length ≤ fuel) :
    lossyLoop fuel (characters.flatMap codes) = characters := by
  induction characters generalizing fuel with
  | nil => cases fuel <;> rfl
  | cons character rest ih =>
    obtain ⟨lead, following, split, decoded⟩ := decodeOne_codes character
    simp only [List.flatMap_cons, split, List.cons_append, List.length_cons,
      List.length_append] at enough ⊢
    obtain ⟨fuel, rfl⟩ : ∃ less, fuel = less + 1 := ⟨fuel - 1, by omega⟩
    rw [lossyLoop, decoded]
    simp only [Option.getD_some, List.drop_left, ih fuel (by omega)]

theorem map_encode (text : String) : (encode text).map UInt8.toNat = text.toList.flatMap codes := by
  rw [encode, List.map_flatMap]
  rfl

theorem lossy_encode (text : String) : lossy (encode text) = text := by
  have mapped := map_encode text
  have sized : (encode text).length = (text.toList.flatMap codes).length := by
    rw [← mapped, List.length_map]
  rw [lossy, mapped, sized, lossyLoop_codes _ _ (Nat.le_refl _), String.ofList_toList]

/-- Where a byte begins no character, one replacement stands for that byte alone. -/
def replaceLoop : Nat → List Nat → List Char
  | 0, _ => []
  | _ + 1, [] => []
  | fuel + 1, lead :: following =>
    match decodeOne lead following with
    | (some character, taken) => character :: replaceLoop fuel (following.drop taken)
    | (none, _) => '\uFFFD' :: replaceLoop fuel following

def replaceBytes (bytes : List UInt8) : String :=
  String.ofList (replaceLoop bytes.length (bytes.map UInt8.toNat))

theorem replaceLoop_codes (characters : List Char) (fuel : Nat)
    (enough : (characters.flatMap codes).length ≤ fuel) :
    replaceLoop fuel (characters.flatMap codes) = characters := by
  induction characters generalizing fuel with
  | nil => cases fuel <;> rfl
  | cons character rest ih =>
    obtain ⟨lead, following, split, decoded⟩ := decodeOne_codes character
    simp only [List.flatMap_cons, split, List.cons_append, List.length_cons,
      List.length_append] at enough ⊢
    obtain ⟨fuel, rfl⟩ : ∃ less, fuel = less + 1 := ⟨fuel - 1, by omega⟩
    rw [replaceLoop, decoded]
    simp only [List.drop_left, ih fuel (by omega)]

theorem replaceBytes_encode (text : String) : replaceBytes (encode text) = text := by
  have mapped := map_encode text
  have sized : (encode text).length = (text.toList.flatMap codes).length := by
    rw [← mapped, List.length_map]
  rw [replaceBytes, mapped, sized, replaceLoop_codes _ _ (Nat.le_refl _), String.ofList_toList]

theorem encode_injective {first second : String} (same : encode first = encode second) :
    first = second := by
  rw [← lossy_encode first, same, lossy_encode]

/-- The string that `bytes` encode, if they are well formed. -/
def strict (bytes : List UInt8) : Option String :=
  if encode (lossy bytes) = bytes then some (lossy bytes) else none

theorem encode_strict {bytes : List UInt8} {text : String} (read : strict bytes = some text) :
    encode text = bytes := by
  unfold strict at read
  split_ifs at read with same
  obtain rfl := Option.some.inj read
  exact same

theorem strict_encode (text : String) : strict (encode text) = some text := by
  rw [strict, lossy_encode, if_pos rfl]

@[simp] theorem encode_empty : encode "" = [] := by simp [encode]

theorem encode_eq_nil {text : String} : encode text = [] ↔ text = "" :=
  ⟨fun empty => encode_injective (empty.trans encode_empty.symm), fun empty => by simp [empty]⟩

/-! ## Places in encodings -/

-- A byte of ASCII is a character of its own.
theorem ascii_mem {character : Char} {byte : UInt8} (ascii : byte.toNat < 0x80)
    (member : byte ∈ String.utf8EncodeChar character) : character.toNat = byte.toNat := by
  have inside : byte.toNat ∈ codes character := List.mem_map_of_mem member
  rw [codes_eq] at inside
  split_ifs at inside <;> simp at inside <;> omega

theorem encodeChar_ascii {character : Char} {byte : UInt8} (ascii : byte.toNat < 0x80)
    (is : character.toNat = byte.toNat) : String.utf8EncodeChar character = [byte] := by
  have bytes : codes character = [byte.toNat] := by
    rw [codes_eq, if_pos (by omega), is]
  exact List.map_injective_iff.mpr (fun _ _ => UInt8.toNat_inj.mp) bytes

theorem ascii_mem_encode {text : String} {character : Char} {byte : UInt8}
    (ascii : byte.toNat < 0x80) (is : character.toNat = byte.toNat) :
    byte ∈ encode text ↔ character ∈ text.toList := by
  rw [encode, List.mem_flatMap]
  constructor
  · rintro ⟨other, member, inside⟩
    obtain rfl : character = other :=
      Char.toNat_inj.mp (is.trans (ascii_mem ascii inside).symm)
    exact member
  · intro member
    exact ⟨character, member, by simp [encodeChar_ascii ascii is]⟩

theorem ascii_last_encode {text : String} {character : Char} {byte : UInt8}
    (ascii : byte.toNat < 0x80) (is : character.toNat = byte.toNat) :
    (encode text).getLast? = some byte ↔ text.toList.getLast? = some character := by
  rw [encode]
  rcases List.eq_nil_or_concat text.toList with empty | ⟨start, last, text⟩
  · simp [empty]
  · rw [text, List.concat_eq_append, List.flatMap_append, List.flatMap_singleton,
      List.getLast?_concat, List.getLast?_append_of_ne_nil _ (by simp)]
    constructor
    · intro ends
      have inside := List.mem_of_getLast? ends
      rw [Char.toNat_inj.mp (is.trans (ascii_mem ascii inside).symm)]
    · intro ends
      obtain rfl := Option.some.inj ends
      rw [encodeChar_ascii ascii is]
      rfl

-- The first byte of a character is that of ASCII, or the lead of a longer form.
theorem lead_byte {character : Char} {byte : UInt8} {rest : List UInt8}
    (is : String.utf8EncodeChar character = byte :: rest) :
    byte.toNat = character.toNat ∧ character.toNat < 0x80 ∨ 0xC0 ≤ byte.toNat := by
  have first : (codes character).head? = some byte.toNat := by
    rw [codes, is]
    rfl
  rw [codes_eq] at first
  split_ifs at first with ascii
  · exact .inl ⟨(Option.some.inj first).symm, by omega⟩
  all_goals
    have lead := Option.some.inj first
    exact .inr (by omega)

theorem continuation {character : Char} {left right : List UInt8} {byte : UInt8}
    (split : String.utf8EncodeChar character = left ++ byte :: right) (inside : left ≠ []) :
    tail byte.toNat = true := by
  have bytes : codes character = left.map UInt8.toNat ++ byte.toNat :: right.map UInt8.toNat := by
    rw [codes, split, List.map_append, List.map_cons]
  cases left with
  | nil => exact absurd rfl inside
  | cons lead left =>
    have member : byte.toNat ∈ (codes character).tail := by
      rw [bytes]
      simp
    have within : ∀ code ∈ (codes character).tail, tail code = true := by
      rw [codes_eq]
      split_ifs <;> simp [tail] <;> omega
    exact within _ member

-- A byte that continues no character stands between characters.
theorem boundary {text : List Char} {left right : List UInt8} {byte : UInt8}
    (starts : tail byte.toNat = false)
    (split : text.flatMap String.utf8EncodeChar = left ++ byte :: right) :
    ∃ first second, text = first ++ second ∧ first.flatMap String.utf8EncodeChar = left := by
  induction text generalizing left with
  | nil => simp at split
  | cons character rest ih =>
    rw [List.flatMap_cons] at split
    rcases List.append_eq_append_iff.mp split with ⟨more, rfl, split_rest⟩ | ⟨more, inner, outer⟩
    · obtain ⟨first, second, rfl, rfl⟩ := ih split_rest
      exact ⟨character :: first, second, rfl, by simp⟩
    · cases more with
      | nil => exact ⟨[character], rest, rfl, by simpa using inner⟩
      | cons byte' more =>
        obtain ⟨rfl, _⟩ := List.cons.inj outer
        by_cases inside : left = []
        · exact ⟨[], _, rfl, by simp [inside]⟩
        · rw [continuation inner inside] at starts
          cases starts

-- A byte of ASCII stands between characters.
theorem ascii_boundary {text : List Char} {left right : List UInt8} {byte : UInt8}
    (ascii : byte.toNat < 0x80)
    (split : text.flatMap String.utf8EncodeChar = left ++ byte :: right) :
    ∃ first second, text = first ++ second ∧ first.flatMap String.utf8EncodeChar = left :=
  boundary (by simp [tail]; omega) split

theorem encodeChar_injective {first second : Char} {left right : List UInt8}
    (same : String.utf8EncodeChar first ++ left = String.utf8EncodeChar second ++ right) :
    first = second := by
  have bytes : codes first ++ left.map UInt8.toNat = codes second ++ right.map UInt8.toNat := by
    rw [codes, codes, ← List.map_append, same, List.map_append]
  obtain ⟨lead, following, split, decoded⟩ := decodeOne_codes first
  obtain ⟨lead', following', split', decoded'⟩ := decodeOne_codes second
  rw [split, split', List.cons_append, List.cons_append] at bytes
  obtain ⟨rfl, same_following⟩ := List.cons.inj bytes
  have one := decoded (left.map UInt8.toNat)
  rw [same_following, decoded'] at one
  exact (Option.some.inj (Prod.mk.inj one).1).symm

theorem prefix_of_encoded {first text : List Char} {rest : List UInt8}
    (same : first.flatMap String.utf8EncodeChar ++ rest = text.flatMap String.utf8EncodeChar) :
    first <+: text := by
  induction first generalizing text with
  | nil => exact List.nil_prefix
  | cons character first ih =>
    cases text with
    | nil =>
      obtain ⟨lead, following, split, _⟩ := decodeOne_codes character
      have empty := List.append_eq_nil_iff.mp (List.append_eq_nil_iff.mp same).1
      simp [codes, empty.1] at split
    | cons character' text =>
      simp only [List.flatMap_cons, List.append_assoc] at same
      obtain rfl := encodeChar_injective same
      exact (List.prefix_cons_inj character).mpr (ih (List.append_cancel_left same))

/-! ## Encodings that are cut -/

-- A character that is cut off is one replacement.
theorem decodeOne_cut {character : Char} {kept : Nat} (some_byte : 0 < kept)
    (cut : kept < (codes character).length) :
    ∃ lead following taken, (codes character).take kept = lead :: following ∧
      decodeOne lead following = (none, taken) ∧ following.length ≤ taken := by
  have range := character_range character
  rw [codes_eq] at cut ⊢
  split_ifs at cut ⊢ with one two three
  · simp at cut
    omega
  · obtain rfl : kept = 1 := by simp at cut; omega
    have width_two : width (character.toNat / 64 + 0xC0) = 2 := by
      unfold width
      split_ifs <;> omega
    exact ⟨_, [], 0, rfl, by simp [decodeOne, width_two], Nat.le_refl _⟩
  · have width_three : width (character.toNat / 4096 + 0xE0) = 3 := by
      unfold width
      split_ifs <;> omega
    have next : second (character.toNat / 4096 + 0xE0) (character.toNat / 64 % 64 + 0x80) := by
      unfold second
      split_ifs <;> simp <;> omega
    obtain rfl | rfl : kept = 1 ∨ kept = 2 := by simp at cut; omega
    · exact ⟨_, [], 0, rfl, by simp [decodeOne, width_three], Nat.le_refl _⟩
    · exact ⟨_, [_], 1, rfl, by simp [decodeOne, width_three, next], Nat.le_refl _⟩
  · have width_four : width (character.toNat / 262144 + 0xF0) = 4 := by
      unfold width
      split_ifs <;> omega
    have next : second (character.toNat / 262144 + 0xF0) (character.toNat / 4096 % 64 + 0x80) := by
      unfold second
      split_ifs <;> simp <;> omega
    have third : tail (character.toNat / 64 % 64 + 0x80) := by
      simp [tail]
      omega
    obtain rfl | rfl | rfl : kept = 1 ∨ kept = 2 ∨ kept = 3 := by simp at cut; omega
    · exact ⟨_, [], 0, rfl, by simp [decodeOne, width_four], Nat.le_refl _⟩
    · exact ⟨_, [_], 1, rfl, by simp [decodeOne, width_four, next], Nat.le_refl _⟩
    · exact ⟨_, [_, _], 2, rfl, by simp [decodeOne, width_four, next, third], Nat.le_refl _⟩

theorem length_codes_le (character : Char) : (codes character).length ≤ 4 := by
  rw [codes_eq]
  split_ifs <;> simp

-- The front of an encoding is read as the front of the text, and a replacement where it is cut
-- inside a character.
theorem lossyLoop_cut (text : List Char) (kept fuel : Nat) (enough : kept ≤ fuel) :
    ∃ front back tail, text = front ++ back ∧
      lossyLoop fuel ((text.flatMap codes).take kept) = front ++ tail ∧
      (tail = [] ∨ tail = ['\uFFFD']) ∧ (front.flatMap codes).length ≤ kept ∧
      min kept (text.flatMap codes).length ≤ (front.flatMap codes).length + 3 := by
  induction text generalizing kept fuel with
  | nil => exact ⟨[], [], [], rfl, by cases fuel <;> simp [lossyLoop], .inl rfl, by simp, by simp⟩
  | cons character text ih =>
    obtain ⟨lead, following, split, decoded⟩ := decodeOne_codes character
    by_cases whole : (codes character).length ≤ kept
    · have positive : 0 < (codes character).length := by simp [split]
      obtain ⟨fuel, rfl⟩ : ∃ less, fuel = less + 1 := ⟨fuel - 1, by omega⟩
      obtain ⟨front, back, tail, rfl, read, kind, short, most⟩ :=
        ih (kept - (codes character).length) fuel (by omega)
      refine ⟨character :: front, back, tail, rfl, ?_, kind, ?_, ?_⟩
      · rw [List.flatMap_cons, List.take_append, List.take_of_length_le whole]
        rw [split, List.cons_append, lossyLoop, decoded]
        simp only [Option.getD_some, List.drop_left, List.cons_append]
        rw [split] at read
        rw [read]
      · rw [List.flatMap_cons, List.length_append]
        omega
      · rw [List.flatMap_cons, List.flatMap_cons, List.length_append, List.length_append]
        omega
    · by_cases none_kept : kept = 0
      · exact ⟨[], character :: text, [], rfl, by cases fuel <;> simp [none_kept, lossyLoop],
          .inl rfl, by simp, by simp [none_kept]⟩
      · obtain ⟨fuel, rfl⟩ : ∃ less, fuel = less + 1 := ⟨fuel - 1, by omega⟩
        obtain ⟨first, others, taken, bytes, none, all⟩ :=
          decodeOne_cut (Nat.pos_of_ne_zero none_kept) (Nat.lt_of_not_le whole)
        have width := length_codes_le character
        refine ⟨[], character :: text, ['\uFFFD'], rfl, ?_, .inr rfl, by simp, by simp; omega⟩
        rw [List.flatMap_cons, List.take_append_of_le_length (by omega), bytes, lossyLoop, none]
        simp only [List.drop_eq_nil_of_le all, Option.getD_none]
        cases fuel <;> rfl

theorem map_flatMap (text : List Char) :
    (text.flatMap String.utf8EncodeChar).map UInt8.toNat = text.flatMap codes := by
  rw [List.map_flatMap]
  rfl

theorem lossy_take (text : List Char) (kept : Nat) :
    ∃ front back tail, text = front ++ back ∧
      (lossy ((text.flatMap String.utf8EncodeChar).take kept)).toList = front ++ tail ∧
      (tail = [] ∨ tail = ['\uFFFD']) ∧
      (front.flatMap String.utf8EncodeChar).length ≤ kept ∧
      min kept (text.flatMap String.utf8EncodeChar).length ≤
        (front.flatMap String.utf8EncodeChar).length + 3 := by
  have size (text : List Char) :
      (text.flatMap codes).length = (text.flatMap String.utf8EncodeChar).length := by
    rw [← map_flatMap, List.length_map]
  obtain ⟨front, back, tail, split, read, kind, short, most⟩ :=
    lossyLoop_cut text (min kept (text.flatMap String.utf8EncodeChar).length)
      ((text.flatMap String.utf8EncodeChar).take kept).length (Nat.le_of_eq List.length_take.symm)
  rw [size] at short most
  rw [size, Nat.min_assoc, Nat.min_self] at most
  refine ⟨front, back, tail, split, ?_, kind, Nat.le_trans short (Nat.min_le_left _ _), most⟩
  rw [← read, lossy, String.toList_ofList, List.map_take, map_flatMap, ← size,
    ← List.take_eq_take_min]

theorem lossy_tail {byte : UInt8} (continues : tail byte.toNat = true) (bytes : List UInt8) :
    (lossy (byte :: bytes)).toList.head? = some '\uFFFD' := by
  have no_width : width byte.toNat = 0 := by
    simp only [tail, decide_eq_true_eq] at continues
    unfold width
    split_ifs <;> omega
  rw [lossy, String.toList_ofList, List.map_cons, List.length_cons, lossyLoop]
  simp [decodeOne, no_width]

-- Bytes of an encoding, from anywhere to anywhere, are read as a part of the text with a
-- replacement where it is cut, or start with a replacement.
theorem lossy_window {text : List Char} {start kept : Nat} {c : Char} {rest : List Char}
    (read : (lossy (((text.flatMap String.utf8EncodeChar).drop start).take kept)).toList = c :: rest)
    (other : c ≠ '\uFFFD') :
    ∃ before front back tail, text = before ++ (front ++ back) ∧
      (before.flatMap String.utf8EncodeChar).length = start ∧ c :: rest = front ++ tail ∧
      (tail = [] ∨ tail = ['\uFFFD']) ∧
      (front.flatMap String.utf8EncodeChar).length ≤ kept := by
  cases window : (text.flatMap String.utf8EncodeChar).drop start with
  | nil =>
    rw [window] at read
    simp [lossy, lossyLoop] at read
  | cons byte bytes =>
    have starts : tail byte.toNat = false := by
      by_contra continues
      rw [window] at read
      cases kept with
      | zero => simp [lossy, lossyLoop] at read
      | succ kept =>
        have head := lossy_tail (by simpa using continues) (bytes.take kept)
        rw [List.take_succ_cons] at read
        rw [read] at head
        exact other (Option.some.inj head)
    have inside : start ≤ (text.flatMap String.utf8EncodeChar).length := by
      by_contra past
      rw [List.drop_eq_nil_of_le (Nat.le_of_not_le past)] at window
      cases window
    have split := List.take_append_drop start (text.flatMap String.utf8EncodeChar)
    rw [window] at split
    obtain ⟨before, behind, rfl, left⟩ := boundary starts split.symm
    have size : (before.flatMap String.utf8EncodeChar).length = start := by
      rw [left, List.length_take, Nat.min_eq_left inside]
    have later : ((before ++ behind).flatMap String.utf8EncodeChar).drop start =
        behind.flatMap String.utf8EncodeChar := by
      rw [List.flatMap_append, ← size, List.drop_left]
    rw [later] at read
    obtain ⟨front, back, tail, rfl, found, kind, short, _⟩ := lossy_take behind kept
    exact ⟨before, front, back, tail, rfl, size, read.symm.trans found, kind, short⟩

end Utf8
