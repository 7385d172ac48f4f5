import Mathlib.Data.List.Basic
import Mathlib.Data.List.Infix
import Mathlib.Data.Nat.Digits

/-!
# OddiyaOps.Python.Str

**The `str` operations of Python that the scripts call**, over Lean's `String`.

Each operation is defined on the character list (`String.toList`), which is what Python's
sequence semantics of `str` is: `startswith` is a list prefix, `len` is the number of code
points. Defining them on lists keeps them structurally recursive, so a test on a literal is
decided by evaluation, and a proof about them uses `List` lemmas.

Two round trips are proved here because the scripts rely on them: `int(str(n)) == n`
(`pyInt_toString`, the scheduler saves a capacity as a tag and reads it back) and
`sep.join(s.split(sep)) == s` (`pyJoin_pySplit`, the YAML fixer splits a file into profiles and
joins them again), with the fact that no part holds the separator (`not_infix_of_mem_pySplit`).
The other direction, `(a + sep + b).split(sep)`, cuts at the `sep` written after `a` when no
occurrence of `sep` runs from inside `a` into it (`NoStraddle`, `pySplit_append_sep`), which
every part of a split but the last satisfies (`noStraddle_of_mem_dropLast`).
`int` reads the decimal digits of every script, as CPython does. `lower` is modelled on ASCII
letters: no other character lowers to a letter of `start`, so the scheduler's test
`action.lower() == 'start'` comes out as Python's.
-/

namespace OddiyaOps.Python

/-- `s.startswith(p)`. -/
def startsWith (s p : String) : Bool := p.toList.isPrefixOf s.toList

theorem startsWith_iff (s p : String) : startsWith s p = true ↔ p.toList <+: s.toList :=
  List.isPrefixOf_iff_prefix

/-- Python's truth value of a string that may be `None`: `None` and `''` are false. -/
def truthy : Option String → Bool
  | some x => x ≠ ""
  | none => false

/-- `a or b` for two values that are strings or `None`. -/
def pyOr (a b : Option String) : Option String := if truthy a then a else b

/-- `str(x)` (and an f-string field) for a string that may be `None`. -/
def pyStr : Option String → String
  | some x => x
  | none => "None"

/-! ### Whitespace and case -/

/-- `c.isspace()`: the characters CPython treats as whitespace, the ones `strip` removes. -/
def isSpace (c : Char) : Bool :=
  let n := c.toNat
  (9 ≤ n && n ≤ 13) || (28 ≤ n && n ≤ 32) || n == 0x85 || n == 0xA0 || n == 0x1680 ||
    (0x2000 ≤ n && n ≤ 0x200A) || n == 0x2028 || n == 0x2029 || n == 0x202F ||
    n == 0x205F || n == 0x3000

/-- `s.lstrip()`. -/
def pyLstrip (s : String) : String := ⟨s.toList.dropWhile isSpace⟩

/-- `s.strip()`. -/
def pyStrip (s : String) : String :=
  ⟨((s.toList.dropWhile isSpace).reverse.dropWhile isSpace).reverse⟩

/-- `s.lower()`, on the ASCII letters. -/
def pyLower (s : String) : String := ⟨s.toList.map Char.toLower⟩

/-! ### Integers

`int(s)` (CPython's `PyLong_FromUnicodeObject`) reads a string in two steps. It first maps it to
ASCII (`_PyUnicode_TransformDecimalAndSpaceToASCII`): a character below 127 stays, a whitespace
character becomes a space, a decimal digit of any script becomes its ASCII digit, and any other
character becomes `?`, which no literal contains. `PyLong_FromString` then reads the ASCII text:
ASCII whitespace around it, a sign, and digits with single underscores between them. So
`int('\x1c5')` raises although `'\x1c'.isspace()`, and `int('٣')` is `3`. The limit of 4300
digits (`sys.get_int_max_str_digits()`) is not modelled: the strings read here are tag values,
which hold at most 256 characters. -/

/-- The first code point of each block of ten Unicode decimal digits (general category `Nd`),
as the Unicode database 14.0 of Python 3.11's `unicodedata` lists them. -/
def decimalZeros : List Nat :=
  [0x30, 0x660, 0x6F0, 0x7C0, 0x966, 0x9E6, 0xA66, 0xAE6, 0xB66, 0xBE6, 0xC66, 0xCE6, 0xD66, 0xDE6,
    0xE50, 0xED0, 0xF20, 0x1040, 0x1090, 0x17E0, 0x1810, 0x1946, 0x19D0, 0x1A80, 0x1A90, 0x1B50,
    0x1BB0, 0x1C40, 0x1C50, 0xA620, 0xA8D0, 0xA900, 0xA9D0, 0xA9F0, 0xAA50, 0xABF0, 0xFF10, 0x104A0,
    0x10D30, 0x11066, 0x110F0, 0x11136, 0x111D0, 0x112F0, 0x11450, 0x114D0, 0x11650, 0x116C0,
    0x11730, 0x118E0, 0x11950, 0x11C50, 0x11D50, 0x11DA0, 0x16A60, 0x16AC0, 0x16B50, 0x1D7CE,
    0x1D7D8, 0x1D7E2, 0x1D7EC, 0x1D7F6, 0x1E140, 0x1E2F0, 0x1E950, 0x1FBF0]

/-- `unicodedata.decimal(c, None)`: the digit `c` stands for, if it is a decimal digit. -/
def decimalValue (c : Char) : Option Nat :=
  (decimalZeros.find? fun z => z ≤ c.toNat && c.toNat < z + 10).map (c.toNat - ·)

/-- One character of `_PyUnicode_TransformDecimalAndSpaceToASCII`. -/
def asciiDecimal (c : Char) : Char :=
  if c.toNat < 127 then c
  else if isSpace c then ' '
  else match decimalValue c with
    | some d => Nat.digitChar d
    | none => '?'

/-- `Py_ISSPACE`: the ASCII whitespace `PyLong_FromString` skips. -/
def isAsciiSpace (c : Char) : Bool := c = ' ' || (9 ≤ c.toNat && c.toNat ≤ 13)

/-- The ASCII text without the ASCII whitespace at its two ends. -/
def asciiStrip (l : List Char) : List Char :=
  ((l.dropWhile isAsciiSpace).reverse.dropWhile isAsciiSpace).reverse

/-- The digits of `int(s)` after the sign: digits with single underscores between them.
`afterDigit` says the last character read was a digit. -/
def readDigits : Nat → Bool → List Char → Option Nat
  | acc, afterDigit, [] => if afterDigit then some acc else none
  | acc, afterDigit, c :: cs =>
    if c.isDigit then readDigits (10 * acc + (c.toNat - '0'.toNat)) true cs
    else if c = '_' && afterDigit then readDigits acc false cs
    else none

/-- `int(s)` in base 10; `none` where Python raises `ValueError`. -/
def pyInt (s : String) : Option Int :=
  match asciiStrip (s.toList.map asciiDecimal) with
  | [] => none
  | c :: ds =>
    if c = '-' then (readDigits 0 false ds).map fun (n : Nat) => -(n : Int)
    else if c = '+' then (readDigits 0 false ds).map fun (n : Nat) => (n : Int)
    else (readDigits 0 false (c :: ds)).map fun (n : Nat) => (n : Int)

example : pyInt "\u0663" = some 3 ∧ pyInt " -\u0663_\u0660\xA0" = some (-30) ∧
    pyInt "\x1c5" = none := by
  decide

theorem digitChar_isDigit {k : Nat} (hk : k < 10) : (Nat.digitChar k).isDigit = true := by
  have : ∀ k < 10, (Nat.digitChar k).isDigit = true := by decide
  exact this k hk

theorem digitChar_value {k : Nat} (hk : k < 10) : (Nat.digitChar k).toNat - '0'.toNat = k := by
  have : ∀ k < 10, (Nat.digitChar k).toNat - '0'.toNat = k := by decide
  exact this k hk

/-- The value a run of digits adds up to. -/
def digitsValue (acc : Nat) (l : List Char) : Nat :=
  l.foldl (fun a c => 10 * a + (c.toNat - '0'.toNat)) acc

theorem readDigits_of_digits : ∀ {l : List Char} (acc : Nat) (b : Bool), l ≠ [] →
    (∀ c ∈ l, c.isDigit = true) → readDigits acc b l = some (digitsValue acc l)
  | [], _, _, h, _ => absurd rfl h
  | [c], acc, b, _, hd => by simp [readDigits, digitsValue, hd c (by simp)]
  | c :: d :: cs, acc, b, _, hd => by
    rw [readDigits, if_pos (hd c (by simp)),
      readDigits_of_digits _ true (List.cons_ne_nil d cs) fun x hx => hd x (.tail _ hx)]
    rfl

/-- `Nat.toDigits` with enough fuel renders every digit of `n` in front of `ds`. -/
theorem toDigitsCore_spec : ∀ (f n : Nat) (ds : List Char), n < 10 ^ (f + 1) →
    (∀ c ∈ ds, c.isDigit = true) →
    (Nat.toDigitsCore 10 (f + 1) n ds ≠ [] ∧
      (∀ c ∈ Nat.toDigitsCore 10 (f + 1) n ds, c.isDigit = true) ∧
      digitsValue 0 (Nat.toDigitsCore 10 (f + 1) n ds) = digitsValue n ds)
  | f, n, ds, hn, hds => by
    have hd := digitChar_isDigit (Nat.mod_lt n (by decide : 10 > 0))
    have hv := digitChar_value (Nat.mod_lt n (by decide : 10 > 0))
    simp only [Nat.toDigitsCore]
    split
    · rename_i h0
      refine ⟨List.cons_ne_nil _ _, ?_, ?_⟩
      · simpa [hd] using hds
      · simp only [digitsValue, List.foldl_cons, hv]
        congr 1
        omega
    · rename_i h0
      cases f with
      | zero => omega
      | succ g =>
        have hn' : n / 10 < 10 ^ (g + 1) := by
          rw [Nat.div_lt_iff_lt_mul (by decide)]; rw [Nat.pow_succ] at hn; exact hn
        obtain ⟨hne, hall, hval⟩ := toDigitsCore_spec g (n / 10) ((n % 10).digitChar :: ds) hn'
          (by simpa [hd] using hds)
        refine ⟨hne, hall, ?_⟩
        rw [hval]
        simp only [digitsValue, List.foldl_cons, hv]
        congr 1
        omega

/-- A digit or a minus sign, the characters of `str(n)`, is ASCII and not whitespace. -/
theorem ascii_of_literal {c : Char} (h : c.isDigit = true ∨ c = '-') :
    c.toNat < 127 ∧ isAsciiSpace c = false := by
  rcases h with h | rfl
  · simp only [Char.isDigit, Bool.and_eq_true, decide_eq_true_eq] at h
    have h1 : 48 ≤ c.val.toNat := h.1
    have h2 : c.val.toNat ≤ 57 := h.2
    simp only [isAsciiSpace, Char.toNat, Bool.or_eq_false_iff, Bool.and_eq_false_imp,
      decide_eq_true_eq, decide_eq_false_iff_not]
    refine ⟨by omega, fun h => by subst h; exact absurd h1 (by decide), by omega⟩
  · decide

theorem dropWhile_isAsciiSpace_of_forall {l : List Char} (h : ∀ c ∈ l, isAsciiSpace c = false) :
    l.dropWhile isAsciiSpace = l := by
  cases l with
  | nil => rfl
  | cons c cs => simp [List.dropWhile_cons, h c (.head _)]

/-- `int()` reads the characters of `str(n)` as they are: none is changed or stripped. -/
theorem asciiStrip_map_of_literal {l : List Char} (h : ∀ c ∈ l, c.isDigit = true ∨ c = '-') :
    asciiStrip (l.map asciiDecimal) = l := by
  have hmap : l.map asciiDecimal = l := by
    conv_rhs => rw [← List.map_id l]
    exact List.map_congr_left fun c hc => if_pos (ascii_of_literal (h c hc)).1
  have hsp : ∀ c ∈ l, isAsciiSpace c = false := fun c hc => (ascii_of_literal (h c hc)).2
  rw [hmap, asciiStrip, dropWhile_isAsciiSpace_of_forall hsp,
    dropWhile_isAsciiSpace_of_forall (by simpa using hsp), List.reverse_reverse]

/-- The decimal digits of `n`: `str(n)`. -/
theorem toDigits_spec (n : Nat) :
    Nat.toDigits 10 n ≠ [] ∧ (∀ c ∈ Nat.toDigits 10 n, c.isDigit = true) ∧
      digitsValue 0 (Nat.toDigits 10 n) = n := by
  obtain ⟨h1, h2, h3⟩ := toDigitsCore_spec n n [] (Nat.lt_pow_self (by decide) _ |>.trans
    (Nat.pow_lt_pow_right (by decide) (Nat.lt_succ_self n))) (by simp)
  exact ⟨h1, h2, h3⟩

theorem pyInt_mk_digits {l : List Char} (hne : l ≠ []) (hdig : ∀ c ∈ l, c.isDigit = true) :
    pyInt ⟨l⟩ = some (digitsValue 0 l : Int) ∧ pyInt ⟨'-' :: l⟩ = some (-(digitsValue 0 l : Int)) := by
  obtain ⟨c, cs, rfl⟩ := List.exists_cons_of_ne_nil hne
  have hc := hdig c (.head _)
  have hread := readDigits_of_digits 0 false hne hdig
  constructor
  · rw [pyInt, String.toList, asciiStrip_map_of_literal fun x hx => .inl (hdig x hx)]
    simp only [if_neg (show c ≠ '-' by rintro rfl; simp at hc),
      if_neg (show c ≠ '+' by rintro rfl; simp at hc), hread]
    rfl
  · rw [pyInt, String.toList, asciiStrip_map_of_literal fun x hx =>
      (List.mem_cons.1 hx).elim .inr fun hx => .inl (hdig x hx)]
    simp only [if_pos rfl, hread]
    rfl

/-- `int(str(n))` is `n`. -/
theorem pyInt_toString (n : Int) : pyInt (toString n) = some n := by
  cases n with
  | ofNat m =>
    obtain ⟨hne, hdig, hval⟩ := toDigits_spec m
    have := (pyInt_mk_digits hne hdig).1
    rw [hval] at this
    exact this
  | negSucc m =>
    obtain ⟨hne, hdig, hval⟩ := toDigits_spec (m + 1)
    have := (pyInt_mk_digits hne hdig).2
    rw [hval] at this
    exact this

/-! ### Splitting and joining -/

/-- The scan of `s.split(sep)`: `skip` characters of a separator just matched are still to be
passed over, and `part` is the current part, reversed. -/
def splitScan (sep : List Char) : Nat → List Char → List Char → List (List Char)
  | _, [], part => [part.reverse]
  | skip + 1, _ :: cs, part => splitScan sep skip cs part
  | 0, c :: cs, part =>
    if sep.isPrefixOf (c :: cs) then part.reverse :: splitScan sep (sep.length - 1) cs []
    else splitScan sep 0 cs (c :: part)

/-- `s.split(sep)`, for a non-empty `sep`. -/
def pySplit (s sep : String) : List String := (splitScan sep.toList 0 s.toList []).map String.mk

/-- `sep.join(parts)`. -/
def pyJoin (sep : String) (parts : List String) : String :=
  ⟨sep.toList.intercalate (parts.map String.toList)⟩

theorem intercalate_cons_of_ne_nil {α : Type} {sep x : List α} {xs : List (List α)}
    (h : xs ≠ []) : sep.intercalate (x :: xs) = x ++ sep ++ sep.intercalate xs := by
  obtain ⟨y, ys, rfl⟩ := List.exists_cons_of_ne_nil h
  simp [List.intercalate, List.intersperse]

theorem splitScan_ne_nil (sep : List Char) :
    ∀ (skip : Nat) (l part : List Char), splitScan sep skip l part ≠ []
  | _, [], _ => by simp [splitScan]
  | skip + 1, _ :: cs, part => by rw [splitScan]; exact splitScan_ne_nil sep skip cs part
  | 0, c :: cs, part => by
    rw [splitScan]
    split
    · exact List.cons_ne_nil _ _
    · exact splitScan_ne_nil sep 0 cs _

/-- Joining the parts of a split with its separator gives the string back; `skip` characters of
the separator still to be passed over stand at the head of `l`. -/
theorem intercalate_splitScan {sep : List Char} :
    ∀ (l : List Char) (skip : Nat) (part : List Char), skip < sep.length →
      sep.drop (sep.length - skip) <+: l →
      sep.intercalate (splitScan sep skip l part) = part.reverse ++ l.drop skip
  | [], skip, part, _, _ => by simp [splitScan, List.intercalate]
  | c :: cs, skip + 1, part, hs, hp => by
    rw [List.drop_eq_getElem_cons (by omega), List.cons_prefix_cons] at hp
    rw [splitScan, intercalate_splitScan cs skip part (by omega) (by
      rw [show sep.length - (skip + 1) + 1 = sep.length - skip by omega] at hp
      exact hp.2)]
    rfl
  | c :: cs, 0, part, hs, _ => by
    rw [splitScan]
    split
    · rename_i hpre
      have hpre := List.isPrefixOf_iff_prefix.1 hpre
      obtain ⟨s0, stail, rfl⟩ := List.exists_cons_of_ne_nil (List.ne_nil_of_length_pos hs)
      have htail := (List.cons_prefix_cons.1 hpre).2
      rw [intercalate_cons_of_ne_nil (splitScan_ne_nil _ _ _ _), intercalate_splitScan cs _ []
        (by simp) (by simpa using htail)]
      have := List.prefix_iff_eq_append.1 hpre
      simp only [List.length_cons, List.drop_succ_cons] at this
      simp only [List.reverse_nil, List.nil_append, List.length_cons, Nat.add_sub_cancel,
        List.append_assoc]
      rw [← this]
      rfl
    · rw [intercalate_splitScan cs 0 (c :: part) hs (by simp)]
      simp

/-- `sep.join(s.split(sep)) == s`. -/
theorem pyJoin_pySplit (s sep : String) (hsep : sep ≠ "") : pyJoin sep (pySplit s sep) = s := by
  have hlen : 0 < sep.toList.length := by
    cases sep with
    | mk l => cases l with
      | nil => exact absurd rfl hsep
      | cons _ _ => simp
  simp only [pyJoin, pySplit, List.map_map]
  rw [show (String.toList ∘ String.mk) = id from rfl, List.map_id,
    intercalate_splitScan _ 0 [] hlen (by rw [Nat.sub_zero, List.drop_length]; exact ⟨_, rfl⟩)]
  rfl

/-- No occurrence of `sep` starts inside the part read so far. -/
def NoSepIn (sep acc l : List Char) : Prop := ∀ i < acc.length, ¬ sep <+: (acc.reverse ++ l).drop i

theorem NoSepIn.not_infix {sep acc l : List Char} (hsep : sep ≠ []) (h : NoSepIn sep acc l) :
    ¬ sep <:+: acc.reverse := by
  rintro ⟨s, t, ht⟩
  have hlen : s.length < acc.length := by
    have := congrArg List.length ht
    simp only [List.length_append, List.length_reverse] at this
    have := List.length_pos.2 hsep
    omega
  refine h s.length hlen ⟨t ++ l, ?_⟩
  rw [← ht]
  simp

/-- A character that starts no occurrence joins the part read so far. -/
theorem NoSepIn.cons {sep acc cs : List Char} {c : Char} (h : NoSepIn sep acc (c :: cs))
    (hc : ¬ sep <+: c :: cs) : NoSepIn sep (c :: acc) cs := by
  intro i hi
  rw [show (c :: acc).reverse ++ cs = acc.reverse ++ c :: cs by simp]
  rcases Nat.lt_succ_iff_lt_or_eq.1 hi with hi | rfl
  · exact h i hi
  · rwa [List.drop_left' (List.length_reverse acc)]

/-- No part of a split holds its separator. -/
theorem splitScan_not_infix {sep : List Char} (hsep : sep ≠ []) :
    ∀ (l : List Char) (skip : Nat) (acc : List Char), (0 < skip → acc = []) → NoSepIn sep acc l →
      ∀ part ∈ splitScan sep skip l acc, ¬ sep <:+: part
  | [], _, acc, _, h, part, hp => by
    rw [splitScan, List.mem_singleton] at hp
    exact hp ▸ h.not_infix hsep
  | _ :: cs, skip + 1, acc, hacc, _, part, hp => by
    rw [splitScan] at hp
    obtain rfl := hacc (Nat.succ_pos skip)
    exact splitScan_not_infix hsep cs skip [] (fun _ => rfl) (fun i hi => absurd hi (by simp)) part hp
  | c :: cs, 0, acc, _, h, part, hp => by
    rw [splitScan] at hp
    split at hp
    · rcases List.mem_cons.1 hp with rfl | hp
      · exact h.not_infix hsep
      · exact splitScan_not_infix hsep cs _ [] (fun _ => rfl) (fun i hi => absurd hi (by simp))
          part hp
    · rename_i hpre
      exact splitScan_not_infix hsep cs 0 (c :: acc) (fun h => absurd h (by simp))
        (h.cons fun hp => hpre (List.isPrefixOf_iff_prefix.2 hp)) part hp

/-- No part of `s.split(sep)` holds `sep`. -/
theorem not_infix_of_mem_pySplit {s sep p : String} (hsep : sep ≠ "") (hp : p ∈ pySplit s sep) :
    ¬ sep.toList <:+: p.toList := by
  have hne : sep.toList ≠ [] := fun h => hsep (congrArg String.mk h)
  obtain ⟨l, hl, rfl⟩ := List.mem_map.1 hp
  exact splitScan_not_infix hne _ 0 [] (fun h => absurd h (by simp))
    (fun i hi => absurd hi (by simp)) l hl

/-! ### Splitting at a separator after a clean prefix -/

/-- Characters of a separator just matched are passed over untested. -/
theorem splitScan_skip (sep : List Char) :
    ∀ (l : List Char) (skip : Nat) (part : List Char), skip ≤ l.length →
      splitScan sep skip l part = splitScan sep 0 (l.drop skip) part
  | _, 0, _, _ => rfl
  | [], _ + 1, _, h => absurd h (by simp)
  | _ :: cs, skip + 1, part, h => by
    rw [splitScan, splitScan_skip sep cs skip part (Nat.le_of_succ_le_succ h)]
    rfl

/-- No occurrence of `sep` starts inside `a` and runs on into a `sep` written after it. -/
def NoStraddle (sep a : List Char) : Prop :=
  ∀ j < a.length, sep <+: (a ++ sep).drop j → j + sep.length ≤ a.length

theorem NoStraddle.tail {sep a : List Char} {c : Char} (h : NoStraddle sep (c :: a)) :
    NoStraddle sep a := fun j hj hp => by
  have := h (j + 1) (by simpa using hj) hp
  simp only [List.length_cons] at this
  omega

/-- **Split at a separator written after a clean prefix**: the parts of the prefix, then those
of the rest. -/
theorem splitScan_append_sep {sep : List Char} (hsep : sep ≠ []) (b : List Char) :
    ∀ (a : List Char) (skip : Nat) (part : List Char), skip ≤ a.length → NoStraddle sep a →
      splitScan sep skip (a ++ sep ++ b) part = splitScan sep skip a part ++ splitScan sep 0 b []
  | [], skip, part, hs, _ => by
    obtain rfl : skip = 0 := Nat.le_zero.1 hs
    obtain ⟨s, st, rfl⟩ := List.exists_cons_of_ne_nil hsep
    have hp : (s :: st).isPrefixOf (s :: (st ++ b)) = true :=
      List.isPrefixOf_iff_prefix.2 ⟨b, rfl⟩
    rw [List.nil_append, List.cons_append, splitScan, splitScan, if_pos hp,
      splitScan_skip _ _ _ _ (by simp), List.length_cons, Nat.add_sub_cancel, List.drop_left]
    rfl
  | _ :: a, skip + 1, part, hs, hn => by
    rw [List.cons_append, List.cons_append, splitScan, splitScan,
      splitScan_append_sep hsep b a skip part (Nat.le_of_succ_le_succ hs) hn.tail]
  | c :: a, 0, part, _, hn => by
    -- an occurrence at the head of `a ++ sep ++ b` is one at the head of `a`
    have hcut : sep.isPrefixOf (c :: (a ++ sep ++ b)) = sep.isPrefixOf (c :: a) := by
      rw [Bool.eq_iff_iff, List.isPrefixOf_iff_prefix, List.isPrefixOf_iff_prefix]
      refine ⟨fun hp => ?_, fun hp => hp.trans ⟨sep ++ b, by simp⟩⟩
      have hin : sep <+: c :: a ++ sep :=
        List.prefix_of_prefix_length_le hp ⟨b, by simp⟩
          (by simp only [List.length_cons, List.length_append]; omega)
      exact List.prefix_of_prefix_length_le hp ⟨sep ++ b, by simp⟩
        (by simpa using hn 0 (by simp) hin)
    rw [List.cons_append, List.cons_append, splitScan, splitScan, hcut]
    split
    · rename_i hp
      have hlen := (List.isPrefixOf_iff_prefix.1 hp).length_le
      rw [splitScan_append_sep hsep b a _ [] (by simp at hlen; omega) hn.tail, List.cons_append]
    · rw [splitScan_append_sep hsep b a 0 (c :: part) (Nat.zero_le _) hn.tail]

theorem pySplit_append_sep {a sep : String} (b : String) (hsep : sep ≠ "")
    (ha : NoStraddle sep.toList a.toList) :
    pySplit (a ++ sep ++ b) sep = pySplit a sep ++ pySplit b sep := by
  have hne : sep.toList ≠ [] := fun h => hsep (congrArg String.mk h)
  rw [pySplit, show (a ++ sep ++ b).toList = a.toList ++ sep.toList ++ b.toList from rfl,
    splitScan_append_sep hne _ _ 0 [] (Nat.zero_le _) ha, List.map_append]
  rfl

/-- A list without the separator is one part. -/
theorem splitScan_eq_singleton {sep : List Char} :
    ∀ (l part : List Char), ¬ sep <:+: l → splitScan sep 0 l part = [part.reverse ++ l]
  | [], part, _ => by simp [splitScan]
  | c :: cs, part, h => by
    rw [splitScan, if_neg (fun hp => h (List.isPrefixOf_iff_prefix.1 hp).isInfix),
      splitScan_eq_singleton cs (c :: part) (fun h' => h (List.infix_cons h'))]
    simp

theorem pySplit_eq_singleton {s sep : String} (h : ¬ sep.toList <:+: s.toList) :
    pySplit s sep = [s] := by
  rw [pySplit, splitScan_eq_singleton _ _ h]
  rfl

/-- No occurrence of the separator starts inside a part the scan closed at one. -/
theorem splitScan_noStraddle {sep : List Char} :
    ∀ (l : List Char) (skip : Nat) (acc : List Char), (0 < skip → acc = []) → NoSepIn sep acc l →
      ∀ part ∈ (splitScan sep skip l acc).dropLast, NoStraddle sep part
  | [], _, _, _, _, part, hp => by simp [splitScan] at hp
  | _ :: cs, skip + 1, acc, hacc, _, part, hp => by
    rw [splitScan] at hp
    obtain rfl := hacc (Nat.succ_pos skip)
    exact splitScan_noStraddle cs skip [] (fun _ => rfl) (fun i hi => absurd hi (by simp)) part hp
  | c :: cs, 0, acc, _, h, part, hp => by
    rw [splitScan] at hp
    split at hp
    · rename_i hpre
      rw [List.dropLast_cons_of_ne_nil (splitScan_ne_nil _ _ _ _)] at hp
      rcases List.mem_cons.1 hp with rfl | hp
      · -- the separator after the part is the first occurrence from inside it
        intro j hj hj'
        have hnext := ((List.prefix_append_right_inj acc.reverse).2
          (List.isPrefixOf_iff_prefix.1 hpre)).drop j
        exact absurd (hj'.trans hnext) (h j (by simpa using hj))
      · exact splitScan_noStraddle cs _ [] (fun _ => rfl) (fun i hi => absurd hi (by simp)) part hp
    · rename_i hpre
      exact splitScan_noStraddle cs 0 (c :: acc) (fun h => absurd h (by simp))
        (h.cons fun hp => hpre (List.isPrefixOf_iff_prefix.2 hp)) part hp

/-- No occurrence of `sep` starts inside a part of `s.split(sep)` but the last and runs on into
the separator after it. -/
theorem noStraddle_of_mem_dropLast {s sep p : String} (hp : p ∈ (pySplit s sep).dropLast) :
    NoStraddle sep.toList p.toList := by
  rw [pySplit, ← List.map_dropLast] at hp
  obtain ⟨l, hl, rfl⟩ := List.mem_map.1 hp
  exact splitScan_noStraddle _ 0 [] (fun h => absurd h (by simp)) (fun i hi => absurd hi (by simp))
    l hl

/-- With a one-character separator the scan is `List.splitOn`. -/
theorem splitScan_singleton (c : Char) :
    ∀ (l part : List Char), splitScan [c] 0 l part = List.splitOnP.go (· == c) l part
  | [], part => rfl
  | d :: ds, part => by
    rw [splitScan, List.splitOnP.go]
    by_cases h : d = c
    · subst h
      simp [splitScan_singleton d ds []]
    · have : [c].isPrefixOf (d :: ds) = false := by simp [List.isPrefixOf, Ne.symm h]
      simp [this, h, splitScan_singleton c ds (d :: part)]

end OddiyaOps.Python
