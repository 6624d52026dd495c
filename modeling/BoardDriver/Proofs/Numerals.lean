/-
Which words are numbers, and what they come to.

A reader goes through the digits from the left and gives up as soon as the value no longer fits. What a numeral is can
be said without a reader: a run of digits, each worth its power of the base. The two agree for every word, however long,
so nothing is cut off and nothing wraps.

- `Numeral.IsDigit`, `Numeral.Positional`, `Numeral.Written`: digits, runs of digits with their positional value, and
  such runs after an optional plus sign;
- `Numeral.parseDigits_eq_ok_iff`: the reader accepts what is written so and stays below the limit;
- `Numeral.positional_toDigits`, `Numeral.Positional.zeros`, `Numeral.positional_map_toLower_iff`: what is printed is
  such a run, with zeros in front and in capitals too;
- `CommandLine.Typed`, `CommandLine.Spells`: the words for a number, and among them those that are printed;
- `CommandLine.numbers_read_exactly`: the words that are numbers of 64 and of 32 bits, and what they are read as.
-/
import Mathlib.Data.List.Forall2
import Mathlib.Data.Nat.Digits.Defs
import BoardDriver.CommandLine.Number

namespace BoardDriver

/-- the same text but for the case of its letters, of which only those of the Latin alphabet count -/
def Text.SameLetters (s t : String) : Prop := s.toList.map Char.toLower = t.toList.map Char.toLower

instance (s t : String) : Decidable (Text.SameLetters s t) := inferInstanceAs (Decidable (_ = _))

namespace Numeral

/-! ## Digits -/

/-- the character is the symbol of `v` in `base`; a letter may be a capital -/
def IsDigit (base : Nat) (c : Char) (v : Nat) : Prop := v < base ∧ c.toLower = Nat.digitChar v

/-- a non-empty run of digits of `base`, the greatest place first, and the sum of their values, each times the power
of the base that belongs to its place -/
def Positional (base : Nat) (digits : List Char) (n : Nat) : Prop :=
  digits ≠ [] ∧ ∃ values, List.Forall₂ (IsDigit base) digits values ∧ n = Nat.ofDigits base values.reverse

/-- a run of digits, after a plus sign or not -/
inductive Written (base : Nat) : List Char → Nat → Prop
  | plain {digits : List Char} {n : Nat} : Positional base digits n → Written base digits n
  | signed {digits : List Char} {n : Nat} : Positional base digits n → Written base ('+' :: digits) n

variable {base limit : Nat} {c : Char} {cs : List Char} {m n v : Nat}

theorem toNat_toLower (c : Char) :
    c.toLower.toNat = if 65 ≤ c.toNat ∧ c.toNat ≤ 90 then c.toNat + 32 else c.toNat := by
  have hcapital : c.val ≥ 65 ∧ c.val ≤ 90 ↔ 65 ≤ c.toNat ∧ c.toNat ≤ 90 := Iff.rfl
  delta Char.toLower
  split
  · rename_i h
    have hle : c.val.toNat ≤ 90 := (hcapital.1 h).2
    rw [if_pos (hcapital.1 h)]
    change (c.val + 32).toNat = c.val.toNat + 32
    rw [UInt32.toNat_add]
    change (c.val.toNat + 32) % 2 ^ 32 = _
    omega
  · rename_i h
    rw [if_neg fun hc => h (hcapital.2 hc)]

theorem toLower_toLower (c : Char) : c.toLower.toLower = c.toLower := by
  rw [← Char.toNat_inj, toNat_toLower, toNat_toLower]
  grind

theorem toNat_digitChar (hv : v < 16) : (Nat.digitChar v).toNat = if v < 10 then 48 + v else 87 + v := by
  have hall : ∀ v < 16, (Nat.digitChar v).toNat = if v < 10 then 48 + v else 87 + v := by decide
  exact hall v hv

theorem isDigit_digitChar (hbase : base ≤ 16) (hv : v < base) : IsDigit base (Nat.digitChar v) v := by
  refine ⟨hv, ?_⟩
  rw [← Char.toNat_inj, toNat_toLower, toNat_digitChar (by omega)]
  grind

theorem digitValue?_eq_some_iff (hbase : base ≤ 16) (c : Char) (v : Nat) :
    digitValue? base c = some v ↔ IsDigit base c v := by
  have hle : ∀ d e : Char, d ≤ e ↔ d.toNat ≤ e.toNat := fun d e => UInt32.le_iff_toNat_le
  by_cases hv : v < base
  · rw [IsDigit, ← Char.toNat_inj, toNat_toLower, toNat_digitChar (by omega)]
    simp only [digitValue?, hle, Char.reduceToNat]
    grind
  · refine iff_of_false ?_ fun h => hv h.1
    simp only [digitValue?]
    grind

/-! ## Reading -/

/-- the value of digits read from the left, on top of what has been read before -/
def valueAfter (base : Nat) (before : Nat) (values : List Nat) : Nat :=
  values.foldl (fun value v => value * base + v) before

theorem valueAfter_zero (base : Nat) (values : List Nat) :
    valueAfter base 0 values = Nat.ofDigits base values.reverse := by
  rw [Nat.ofDigits_eq_foldr, List.foldr_reverse, valueAfter]
  congr 1
  funext value v
  rw [Nat.add_comm, Nat.mul_comm]
  rfl

/-- more digits make no number smaller, so a value that does not fit will never fit again -/
theorem le_valueAfter (hbase : 0 < base) (before : Nat) (values : List Nat) : before ≤ valueAfter base before values := by
  induction values generalizing before with
  | nil => exact Nat.le_refl before
  | cons v values ih =>
    calc before ≤ before * base := Nat.le_mul_of_pos_right before hbase
      _ ≤ before * base + v := Nat.le_add_right _ v
      _ ≤ valueAfter base before (v :: values) := ih _

/-- the reader stops at a character that is no digit and at a value that does not fit, and at nothing else -/
theorem readDigits_eq_ok_iff (hpos : 0 < base) (hbase : base ≤ 16) {before : Nat} (hbefore : before < limit) :
    readDigits base limit before cs = .ok n ↔
      ∃ values, List.Forall₂ (IsDigit base) cs values ∧ n = valueAfter base before values ∧ n < limit := by
  induction cs generalizing before with
  | nil =>
    simp only [readDigits, List.forall₂_nil_left_iff, exists_eq_left, valueAfter, List.foldl_nil, Except.ok.injEq]
    grind
  | cons c cs ih =>
    simp only [readDigits, List.forall₂_cons_left_iff]
    cases hd : digitValue? base c with
    | none =>
      refine iff_of_false (fun h => by cases h) ?_
      rintro ⟨_, ⟨v, _, hv, -⟩, -⟩
      rw [(digitValue?_eq_some_iff hbase c v).2 hv] at hd
      cases hd
    | some d =>
      have honly : ∀ v, IsDigit base c v ↔ v = d := by
        intro v
        rw [← digitValue?_eq_some_iff hbase, hd, Option.some.injEq, eq_comm]
      dsimp only
      split
      · rename_i hfits
        rw [ih hfits]
        constructor
        · rintro ⟨values, hvalues, hn⟩
          exact ⟨d :: values, ⟨d, values, (honly d).2 rfl, hvalues, rfl⟩, hn⟩
        · rintro ⟨_, ⟨v, values, hv, hvalues, rfl⟩, hn⟩
          obtain rfl := (honly v).1 hv
          exact ⟨values, hvalues, hn⟩
      · rename_i hbig
        refine iff_of_false (fun h => by cases h) ?_
        rintro ⟨_, ⟨v, values, hv, -, rfl⟩, hn, hlt⟩
        obtain rfl := (honly v).1 hv
        have hgrown : before * base + v ≤ n := hn ▸ le_valueAfter hpos _ values
        omega

/-- a run of digits has one value -/
theorem Positional.unique (hbase : base ≤ 16) (h : Positional base cs m) (h' : Positional base cs n) : m = n := by
  have hright : Relator.RightUnique (IsDigit base) := by
    intro c v w hv hw
    rw [← digitValue?_eq_some_iff hbase] at hv hw
    exact Option.some.inj (hv.symm.trans hw)
  obtain ⟨-, values, hvalues, rfl⟩ := h
  obtain ⟨-, values', hvalues', rfl⟩ := h'
  rw [List.right_unique_forall₂' hright hvalues hvalues']

/-- a plus sign is no digit -/
theorem not_isDigit_plus (hbase : base ≤ 16) (v : Nat) : ¬ IsDigit base '+' v := by
  rw [← digitValue?_eq_some_iff hbase]
  simp only [digitValue?]
  grind

theorem readDigits_eq_ok_iff_positional (hpos : 0 < base) (hbase : base ≤ 16) (hlimit : 0 < limit) (hcs : cs ≠ []) :
    readDigits base limit 0 cs = .ok n ↔ Positional base cs n ∧ n < limit := by
  rw [readDigits_eq_ok_iff hpos hbase hlimit]
  constructor
  · rintro ⟨values, hvalues, hn, hlt⟩
    exact ⟨⟨hcs, values, hvalues, hn.trans (valueAfter_zero base values)⟩, hlt⟩
  · rintro ⟨⟨-, values, hvalues, hn⟩, hlt⟩
    exact ⟨values, hvalues, hn.trans (valueAfter_zero base values).symm, hlt⟩

theorem written_plus_iff (hbase : base ≤ 16) : Written base ('+' :: cs) n ↔ Positional base cs n := by
  constructor
  · intro h
    cases h with
    | plain h =>
      obtain ⟨-, values, hvalues, -⟩ := h
      obtain ⟨v, _, hv, -⟩ := List.forall₂_cons_left_iff.1 hvalues
      exact absurd hv (not_isDigit_plus hbase v)
    | signed h => exact h
  · exact .signed

theorem written_iff_of_ne_plus (hc : c ≠ '+') : Written base (c :: cs) n ↔ Positional base (c :: cs) n := by
  constructor
  · intro h
    cases h with
    | plain h => exact h
    | signed h => exact absurd rfl hc
  · exact .plain

theorem not_written_nil (n : Nat) : ¬ Written base [] n := by
  rintro ⟨hne, -⟩
  exact hne rfl

/-- a numeral has one value -/
theorem Written.unique (hbase : base ≤ 16) (h : Written base cs m) (h' : Written base cs n) : m = n := by
  cases cs with
  | nil => exact absurd h (not_written_nil m)
  | cons c cs =>
    by_cases hc : c = '+'
    · subst hc
      rw [written_plus_iff hbase] at h h'
      exact h.unique hbase h'
    · rw [written_iff_of_ne_plus hc] at h h'
      exact h.unique hbase h'

/-- **The reader accepts exactly the numerals below the limit**, and answers with their value. -/
theorem parseDigits_eq_ok_iff (hpos : 0 < base) (hbase : base ≤ 16) (hlimit : 0 < limit) :
    parseDigits base limit cs = .ok n ↔ Written base cs n ∧ n < limit := by
  cases cs with
  | nil => exact iff_of_false (fun h => by cases h) fun h => not_written_nil n h.1
  | cons c cs =>
    by_cases hc : c = '+'
    · subst hc
      rw [written_plus_iff hbase]
      cases cs with
      | nil => exact iff_of_false (fun h => by cases h) fun h => h.1.1 rfl
      | cons d cs => exact readDigits_eq_ok_iff_positional hpos hbase hlimit (List.cons_ne_nil d cs)
    · have hread : parseDigits base limit (c :: cs) = readDigits base limit 0 (c :: cs) := by
        simp [parseDigits, hc]
      rw [written_iff_of_ne_plus hc, hread]
      exact readDigits_eq_ok_iff_positional hpos hbase hlimit (List.cons_ne_nil c cs)

/-! ## Printing -/

theorem Positional.snoc (h : Positional base cs m) (hv : IsDigit base c v) :
    Positional base (cs ++ [c]) (base * m + v) := by
  obtain ⟨-, values, hvalues, rfl⟩ := h
  refine ⟨List.append_ne_nil_of_right_ne_nil cs (List.cons_ne_nil c []), values ++ [v], ?_, ?_⟩
  · exact List.rel_append hvalues (.cons hv .nil)
  · rw [List.reverse_append, List.reverse_singleton, List.singleton_append, Nat.ofDigits_cons, Nat.add_comm]

/-- the shortest form -/
theorem positional_toDigits (hone : 1 < base) (hbase : base ≤ 16) (n : Nat) :
    Positional base (Nat.toDigits base n) n := by
  induction n using Nat.base_induction base hone with
  | single m hm =>
    rw [Nat.toDigits_of_lt_base hm]
    refine ⟨List.cons_ne_nil _ _, [m], .cons (isDigit_digitChar hbase hm) .nil, ?_⟩
    simp
  | digit m k hk hm ih =>
    rw [← Nat.toDigits_append_toDigits hone hm hk, Nat.toDigits_of_lt_base hk]
    exact ih.snoc (isDigit_digitChar hbase hk)

/-- zeros in front -/
theorem Positional.zeros (hpos : 0 < base) (h : Positional base cs n) (count : Nat) :
    Positional base (List.replicate count '0' ++ cs) n := by
  induction count with
  | zero => exact h
  | succ count ih =>
    obtain ⟨-, values, hvalues, hn⟩ := ih
    have hzero : IsDigit base '0' 0 := ⟨hpos, rfl⟩
    refine ⟨List.cons_ne_nil _ _, 0 :: values, .cons hzero hvalues, ?_⟩
    rw [hn, List.reverse_cons, Nat.ofDigits_append, Nat.ofDigits_singleton, Nat.mul_zero, Nat.add_zero]

/-- the case of letters does not matter -/
theorem positional_map_toLower_iff : Positional base (cs.map Char.toLower) n ↔ Positional base cs n := by
  have hdigit : (fun c v => IsDigit base (Char.toLower c) v) = IsDigit base := by
    funext c v
    rw [IsDigit, IsDigit, toLower_toLower]
  simp only [Positional, ne_eq, List.map_eq_nil_iff, List.forall₂_map_left_iff, hdigit]

end Numeral

/-! ## Words on the command line -/

namespace CommandLine

open Numeral

/-- the word is a number: hexadecimal after `0x` or `0X`, decimal otherwise -/
inductive Typed (word : String) (n : Nat) : Prop
  | decimal : Written 10 word.toList n → Typed word n
  | hexadecimal {x : Char} {digits : List Char} : (x = 'x' ∨ x = 'X') → word.toList = '0' :: x :: digits →
      Written 16 digits n → Typed word n

/-- the word is a form in which numbers are printed, in decimal or in hexadecimal filled up to some width, where any
letter may have become a capital -/
inductive Spells (n : Nat) (word : String) : Prop
  | decimal : word = toString n → Spells n word
  | hexadecimal (width : Nat) : Text.SameLetters word (hexPadded width n) → Spells n word

variable {word : String} {n : Nat}

theorem toList_hexPadded (width n : Nat) :
    (hexPadded width n).toList = '0' :: 'x' :: (Nat.toDigits 16 n).leftpad (width - 2) '0' := by
  simp [hexPadded]

theorem typed_of_spells (h : Spells n word) : Typed word n := by
  cases h with
  | decimal h =>
    refine .decimal (.plain ?_)
    rw [h, Nat.toString_eq_repr, Nat.toList_repr]
    exact positional_toDigits (by decide) (by decide) n
  | hexadecimal width h =>
    rw [Text.SameLetters, toList_hexPadded] at h
    obtain ⟨zero, rest, hword, hzero, hrest⟩ := List.map_eq_cons_iff.1 h
    obtain ⟨x, digits, rfl, hx, hdigits⟩ := List.map_eq_cons_iff.1 hrest
    rw [← Char.toNat_inj, toNat_toLower] at hzero hx
    have hzero : zero = '0' := by
      rw [← Char.toNat_inj]
      simp only [Char.reduceToNat] at hzero ⊢
      grind
    have hx : x = 'x' ∨ x = 'X' := by
      rw [← Char.toNat_inj, ← Char.toNat_inj]
      simp only [Char.reduceToNat] at hx ⊢
      grind
    subst hzero
    have hshortest : Positional 16 (Nat.toDigits 16 n) n := positional_toDigits (by decide) (by decide) n
    refine .hexadecimal hx hword (.plain ?_)
    rw [← positional_map_toLower_iff, hdigits, positional_map_toLower_iff, List.leftpad]
    exact hshortest.zeros (by decide) _

/-- a letter of the prefix is no decimal digit -/
theorem not_written_of_prefixed {x : Char} {digits : List Char} (hx : x = 'x' ∨ x = 'X') (n : Nat) :
    ¬ Written 10 ('0' :: x :: digits) n := by
  rw [written_iff_of_ne_plus (by decide)]
  rintro ⟨-, values, hvalues, -⟩
  obtain ⟨_, _, -, hrest, -⟩ := List.forall₂_cons_left_iff.1 hvalues
  obtain ⟨v, _, hv, -⟩ := List.forall₂_cons_left_iff.1 hrest
  rw [← digitValue?_eq_some_iff (by decide)] at hv
  rcases hx with rfl | rfl <;> cases hv

theorem typed_iff_of_prefixed {x : Char} {digits : List Char} (hx : x = 'x' ∨ x = 'X')
    (hword : word.toList = '0' :: x :: digits) : Typed word n ↔ Written 16 digits n := by
  constructor
  · intro h
    cases h with
    | decimal h =>
      rw [hword] at h
      exact absurd h (not_written_of_prefixed hx n)
    | hexadecimal _ hword' h =>
      cases hword.symm.trans hword'
      exact h
  · exact .hexadecimal hx hword

theorem typed_iff_of_bare (hbare : ∀ x digits, word.toList = '0' :: x :: digits → ¬ (x = 'x' ∨ x = 'X')) :
    Typed word n ↔ Written 10 word.toList n := by
  constructor
  · intro h
    cases h with
    | decimal h => exact h
    | hexadecimal hx hword _ => exact absurd hx (hbare _ _ hword)
  · exact .decimal

/-- the prefix decides on the base -/
theorem splitBase_cases (word : String) :
    (∃ x digits, (x = 'x' ∨ x = 'X') ∧ word.toList = '0' :: x :: digits ∧ splitBase word = (16, digits)) ∨
      (∀ x digits, word.toList = '0' :: x :: digits → ¬ (x = 'x' ∨ x = 'X')) ∧
        splitBase word = (10, word.toList) := by
  unfold splitBase
  split
  · rename_i digits h
    exact .inl ⟨'x', digits, .inl rfl, h, rfl⟩
  · rename_i digits h
    exact .inl ⟨'X', digits, .inr rfl, h, rfl⟩
  · rename_i hlower hupper
    refine .inr ⟨?_, rfl⟩
    rintro x digits h (rfl | rfl)
    · exact hlower digits h
    · exact hupper digits h

theorem parseAddress_eq_ok_iff (word : String) (n : Nat) :
    parseAddress word = .ok n ↔ Typed word n ∧ n < 2 ^ 64 := by
  have hread : ∀ base digits, splitBase word = (base, digits) →
      (parseAddress word = .ok n ↔ parseDigits base UInt64.size digits = .ok n) := by
    intro base digits hsplit
    simp only [parseAddress, hsplit]
    cases parseDigits base UInt64.size digits <;> simp
  rcases splitBase_cases word with ⟨x, digits, hx, hword, hsplit⟩ | ⟨hbare, hsplit⟩
  · rw [hread _ _ hsplit, typed_iff_of_prefixed hx hword]
    exact parseDigits_eq_ok_iff (by decide) (by decide) (by decide)
  · rw [hread _ _ hsplit, typed_iff_of_bare hbare]
    exact parseDigits_eq_ok_iff (by decide) (by decide) (by decide)

/-- a word is one number at most -/
theorem Typed.unique {m : Nat} (h : Typed word m) (h' : Typed word n) : m = n := by
  rcases splitBase_cases word with ⟨x, digits, hx, hword, -⟩ | ⟨hbare, -⟩
  · rw [typed_iff_of_prefixed hx hword] at h h'
    exact h.unique (by decide) h'
  · rw [typed_iff_of_bare hbare] at h h'
    exact h.unique (by decide) h'

theorem parseWord_eq_ok_iff (word : String) (n : Nat) :
    parseWord word = .ok n ↔ parseAddress word = .ok n ∧ n < 2 ^ 32 := by
  unfold parseWord
  cases parseAddress word with
  | error fault => exact iff_of_false (fun h => by cases h) fun h => by cases h.1
  | ok m =>
    change (if m < UInt32.size then Except.ok m else Except.error NumberFault.tooWide) = _ ↔ _
    simp only [UInt32.size, Except.ok.injEq]
    grind

/-- what is not accepted is refused -/
theorem exists_error_iff {ε : Type} {x : Except ε Nat} {P : Nat → Prop} {bound : Nat}
    (h : ∀ n, x = .ok n ↔ P n ∧ n < bound) : (∃ e, x = .error e) ↔ ∀ n, P n → bound ≤ n := by
  cases x with
  | error e =>
    refine iff_of_true ⟨e, rfl⟩ fun n hn => ?_
    by_contra hlt
    cases (h n).2 ⟨hn, Nat.lt_of_not_le hlt⟩
  | ok n =>
    have hn := (h n).1 rfl
    refine iff_of_false (fun he => by cases he.choose_spec) fun hall => ?_
    exact absurd (hall n hn.1) (Nat.not_le.2 hn.2)

/-- **Numbers on the command line are read as they are written, or not at all.**
- Every form in which a number of 32 or of 64 bits is printed, decimal, or hexadecimal with zeros in front, in small
letters or capitals, is read as that number.
- A word is read as a 64-bit number just when it is one, and is below 2 ^ 64: after `0x` or `0X`, or with no prefix, an
optional plus sign and then one digit or more of the base, which come to that number. A word is one number at most.
- It is read as a 32-bit number just when it is read as a 64-bit number below 2 ^ 32, and then both are the same.
- Every other word is an error. -/
theorem numbers_read_exactly :
    (∀ (v : UInt32) (word : String), Spells v.toNat word → parseWord word = .ok v.toNat) ∧
    (∀ (v : UInt64) (word : String), Spells v.toNat word → parseAddress word = .ok v.toNat) ∧
    (∀ word n, parseAddress word = .ok n ↔ Typed word n ∧ n < 2 ^ 64) ∧
    (∀ word m n, Typed word m → Typed word n → m = n) ∧
    (∀ word n, parseWord word = .ok n ↔ parseAddress word = .ok n ∧ n < 2 ^ 32) ∧
    (∀ word, (∃ fault, parseAddress word = .error fault) ↔ ∀ n, Typed word n → 2 ^ 64 ≤ n) ∧
    (∀ word, (∃ fault, parseWord word = .error fault) ↔ ∀ n, Typed word n → 2 ^ 32 ≤ n) := by
  have hword : ∀ word n, parseWord word = .ok n ↔ Typed word n ∧ n < 2 ^ 32 := by
    intro word n
    rw [parseWord_eq_ok_iff, parseAddress_eq_ok_iff]
    grind
  refine ⟨?words, ?addresses, parseAddress_eq_ok_iff, ?once, parseWord_eq_ok_iff, ?refused, ?refusedWords⟩
  case words =>
    intro v word hv
    exact (hword word _).2 ⟨typed_of_spells hv, v.toNat_lt⟩
  case addresses =>
    intro v word hv
    exact (parseAddress_eq_ok_iff word _).2 ⟨typed_of_spells hv, v.toNat_lt⟩
  case once =>
    intro word m n hm hn
    exact hm.unique hn
  case refused =>
    intro word
    exact exists_error_iff (parseAddress_eq_ok_iff word)
  case refusedWords =>
    intro word
    exact exists_error_iff (hword word)

/-- 171 as the tool prints it and with capitals; `+` is allowed after the prefix but not before it; the first number
that does not fit is refused, and is not 0 -/
theorem numbers_read_exactly_atLimits :
    parseWord "0x00ab" = .ok 171 ∧ parseWord "0X000000aB" = .ok 171 ∧ Typed "0x+ab" 171 ∧
    (∀ n, Typed "+0xab" n → 2 ^ 64 ≤ n) ∧
    (∃ fault, parseWord "0x100000000" = .error fault) ∧ parseAddress "0x100000000" = .ok (2 ^ 32) := by
  obtain ⟨hwords, -, haddress, honce, -, hrefused, hrefusedWords⟩ := numbers_read_exactly
  have hprinted : Spells 171 "0x00ab" := .hexadecimal 6 (by decide)
  have hcapital : Spells 171 "0X000000aB" := .hexadecimal 10 (by decide)
  have hbig : parseAddress "0x100000000" = .ok (2 ^ 32) := by decide +kernel
  have htyped : Typed "0x100000000" (2 ^ 32) := ((haddress _ _).1 hbig).1
  refine ⟨hwords 171 _ hprinted, hwords 171 _ hcapital, ?_, ?_, ?_, hbig⟩
  · exact ((haddress "0x+ab" 171).1 (by decide +kernel)).1
  · exact (hrefused "+0xab").1 ⟨.malformed "+0xab" .invalidDigit, by decide +kernel⟩
  · exact (hrefusedWords _).2 fun n hn => Nat.le_of_eq (honce _ _ _ htyped hn)

end CommandLine
end BoardDriver
