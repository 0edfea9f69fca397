import Mathlib.Data.List.TakeWhile
import Mathlib.Data.Nat.Digits.Defs
import Nursery.Text.Blank
import Nursery.Text.Whole

/-!
# Texts that are read

What a text is read as is told by how it is made up: of blanks, which are cut off at its ends, and
of decimal digits, which stand for a number.

* `Text.Blanks`, `Text.trim_eq_iff` : what is left of a text without its outer blanks.
* `Text.Decimal`, `Text.readWhole?_eq_some` : **a count is a decimal number that fits a word**, with
  a plus sign in front or without one.
* `Text.Counts` : a count with blanks around it.
-/

namespace Nursery

namespace Text

variable {s t : List Char} {c : Char} {d m n : Nat}

/-! ### Blanks -/

/-- Nothing but blanks. -/
def Blanks (s : List Char) : Prop :=
  ∀ c ∈ s, isBlank c = true

/-- The text neither begins nor ends with a blank. -/
def Trimmed (s : List Char) : Prop :=
  (∀ c, s.head? = some c → isBlank c = false) ∧ ∀ c, s.getLast? = some c → isBlank c = false

theorem Blanks.nil : Blanks [] :=
  fun _ h => nomatch h

theorem trimStart_append (blanks : Blanks s) : trimStart (s ++ t) = trimStart t :=
  List.dropWhile_append_of_pos blanks

theorem trimStart_eq_self (h : ∀ c, s.head? = some c → isBlank c = false) : trimStart s = s := by
  cases s with
  | nil => rfl
  | cons c rest => exact List.dropWhile_cons_of_neg (by simp [h c rfl])

theorem trimStart_parts (s : List Char) : ∃ before, Blanks before ∧ s = before ++ trimStart s ∧
    ∀ c, (trimStart s).head? = some c → isBlank c = false := by
  refine ⟨s.takeWhile isBlank, fun c => List.mem_takeWhile_imp,
    List.takeWhile_append_dropWhile.symm,
    fun c first => ?_⟩
  have clear := List.head?_dropWhile_not isBlank s
  rw [trimStart] at first
  simpa [first] using clear

theorem trimEnd_append (blanks : Blanks t) : trimEnd (s ++ t) = trimEnd s := by
  rw [trimEnd, trimEnd, List.reverse_append,
    List.dropWhile_append_of_pos fun c hc => blanks c (List.mem_reverse.1 hc)]

theorem trimEnd_eq_self (h : ∀ c, s.getLast? = some c → isBlank c = false) : trimEnd s = s := by
  have reversed : trimStart s.reverse = s.reverse :=
    trimStart_eq_self fun c first => h c (by rwa [List.head?_reverse] at first)
  exact (congrArg List.reverse reversed).trans s.reverse_reverse

theorem trimEnd_parts (s : List Char) : ∃ behind, Blanks behind ∧ s = trimEnd s ++ behind ∧
    ∀ c, (trimEnd s).getLast? = some c → isBlank c = false := by
  obtain ⟨before, blanks, parts, first⟩ := trimStart_parts s.reverse
  refine ⟨before.reverse, fun c hc => blanks c (List.mem_reverse.1 hc), ?_, fun c last => ?_⟩
  · have turned := congrArg List.reverse parts
    rwa [List.reverse_reverse, List.reverse_append] at turned
  · exact first c (by rwa [trimEnd, List.getLast?_reverse] at last)

/-- **Trimming takes the outer blanks away and nothing else.** -/
theorem trim_eq_iff : trim s = t ↔
    Trimmed t ∧ ∃ before behind, Blanks before ∧ Blanks behind ∧ s = before ++ t ++ behind := by
  constructor
  · rintro rfl
    obtain ⟨before, front, parts, first⟩ := trimStart_parts s
    obtain ⟨behind, back, parts', last⟩ := trimEnd_parts (trimStart s)
    refine ⟨⟨fun c head => first c ?_, last⟩, before, behind, front, back, ?_⟩
    · rw [parts', List.head?_append, show (trimEnd (trimStart s)).head? = some c from head]
      rfl
    · rw [List.append_assoc]
      exact parts.trans (congrArg _ parts')
  · rintro ⟨⟨first, last⟩, before, behind, front, back, rfl⟩
    rw [trim, List.append_assoc, trimStart_append front]
    cases t with
    | nil =>
      rw [List.nil_append, ← List.append_nil behind, trimStart_append back]
      rfl
    | cons c rest =>
      rw [trimStart_eq_self (by simpa using first c rfl), trimEnd_append back, trimEnd_eq_self last]

/-! ### Numbers -/

/-- The decimal digits of a number, the highest first, with zeros in front or without. -/
def Decimal (s : List Char) (n : Nat) : Prop :=
  ∃ ds : List Nat, ds ≠ [] ∧ (∀ d ∈ ds, d < 10) ∧ s = ds.map Nat.digitChar ∧
    Nat.ofDigits 10 ds.reverse = n

theorem digit?_eq_some : digit? c = some d ↔ d < 10 ∧ c = Nat.digitChar d := by
  constructor
  · intro read
    rw [digit?] at read
    split at read
    · rename_i range
      obtain ⟨low, high⟩ : 48 ≤ c.toNat ∧ c.toNat ≤ 57 := range
      obtain rfl : c.toNat - 48 = d := Option.some.inj read
      refine ⟨by omega, Char.toNat_inj.1 ?_⟩
      rw [Nat.toNat_digitChar_of_lt_ten (by omega)]
      omega
    · cases read
  · rintro ⟨small, rfl⟩
    revert d
    decide

theorem readDigits?_eq_some {read : Nat} : readDigits? read s = some n ↔
    ∃ ds : List Nat, (∀ d ∈ ds, d < 10) ∧ s = ds.map Nat.digitChar ∧
      n = ds.foldl (fun n d => d + 10 * n) read := by
  induction s generalizing read with
  | nil =>
    rw [readDigits?, Option.some_inj]
    constructor
    · rintro rfl
      exact ⟨[], by simp, rfl, rfl⟩
    · rintro ⟨ds, -, none, same⟩
      rw [List.map_eq_nil_iff.1 none.symm] at same
      exact same.symm
  | cons c s ih =>
    rw [readDigits?]
    constructor
    · intro h
      split at h
      · rename_i d digit
        obtain ⟨ds, small, rfl, value⟩ := ih.1 h
        obtain ⟨less, rfl⟩ := digit?_eq_some.1 digit
        refine ⟨d :: ds, List.forall_mem_cons.2 ⟨less, small⟩, rfl, ?_⟩
        rw [value, List.foldl_cons, Nat.add_comm]
      · cases h
    · rintro ⟨ds, small, chars, value⟩
      obtain ⟨d, ds, rfl, rfl, rfl⟩ := List.map_eq_cons_iff.1 chars.symm
      obtain ⟨less, small⟩ := List.forall_mem_cons.1 small
      rw [digit?_eq_some.2 ⟨less, rfl⟩]
      exact ih.2 ⟨ds, small, rfl, by rw [value, List.foldl_cons, Nat.add_comm]⟩

theorem readDigits?_eq_some_iff_decimal (some_ : s ≠ []) :
    readDigits? 0 s = some n ↔ Decimal s n := by
  rw [readDigits?_eq_some]
  refine exists_congr fun ds => ?_
  have value : Nat.ofDigits 10 ds.reverse = ds.foldl (fun n d => d + 10 * n) 0 := by
    rw [Nat.ofDigits_eq_foldr, List.foldr_reverse]
    rfl
  rw [value, eq_comm (a := n)]
  constructor
  · rintro ⟨small, rfl, same⟩
    exact ⟨fun none => some_ (by rw [none, List.map_nil]), small, rfl, same⟩
  · rintro ⟨-, small, chars, same⟩
    exact ⟨small, chars, same⟩

theorem Decimal.ne_nil (h : Decimal s n) : s ≠ [] := by
  obtain ⟨ds, some_, -, rfl, -⟩ := h
  exact fun none => some_ (List.map_eq_nil_iff.1 none)

theorem Decimal.unique (h : Decimal s n) (h' : Decimal s m) : n = m :=
  Option.some.inj (((readDigits?_eq_some_iff_decimal h.ne_nil).2 h).symm.trans
    ((readDigits?_eq_some_iff_decimal h'.ne_nil).2 h'))

/-- What is not a digit stands nowhere in a number. -/
theorem Decimal.not_mem (h : Decimal s n) (other : ∀ d < 10, Nat.digitChar d ≠ c) : c ∉ s := by
  obtain ⟨ds, -, small, rfl, -⟩ := h
  intro there
  obtain ⟨d, hd, rfl⟩ := List.mem_map.1 there
  exact other d (small d hd) rfl

/-- No digit is blank. -/
theorem Decimal.not_blank (h : Decimal s n) : ∀ c ∈ s, isBlank c = false := by
  obtain ⟨ds, -, small, rfl, -⟩ := h
  intro c there
  obtain ⟨d, hd, rfl⟩ := List.mem_map.1 there
  have none : ∀ d < 10, isBlank (Nat.digitChar d) = false := by decide
  exact none d (small d hd)

/-- **A count** is a decimal number that fits a word, with a plus sign in front or without one. -/
theorem readWhole?_eq_some : readWhole? s = some n ↔
    ∃ digits, (s = digits ∨ s = '+' :: digits) ∧ Decimal digits n ∧ n < wordSize := by
  have plain : dropPlus s = s ∨ ∃ rest, s = '+' :: rest ∧ dropPlus s = rest := by
    unfold dropPlus
    split
    · exact .inr ⟨_, rfl, rfl⟩
    · exact .inl rfl
  have read : readWhole? s = some n ↔ Decimal (dropPlus s) n ∧ n < wordSize := by
    rw [readWhole?]
    split
    · rename_i none
      rw [none]
      exact iff_of_false nofun fun h => h.1.ne_nil rfl
    · rename_i some_
      rw [Option.filter_eq_some_iff, readDigits?_eq_some_iff_decimal some_, decide_eq_true_eq]
  rw [read]
  constructor
  · rintro ⟨decimal, fits⟩
    rcases plain with same | ⟨rest, rfl, same⟩
    · exact ⟨s, .inl rfl, same ▸ decimal, fits⟩
    · exact ⟨rest, .inr rfl, same ▸ decimal, fits⟩
  · rintro ⟨digits, rfl | rfl, decimal, fits⟩
    · rcases plain with same | ⟨rest, rfl, same⟩
      · exact ⟨same.symm ▸ decimal, fits⟩
      · exact absurd List.mem_cons_self (decimal.not_mem (by decide))
    · exact ⟨decimal, fits⟩

/-- The text is a count with blanks around it. -/
def Counts (s : List Char) (n : Nat) : Prop :=
  ∃ before digits behind, Blanks before ∧ Blanks behind ∧ Decimal digits n ∧ n < wordSize ∧
    (s = before ++ digits ++ behind ∨ s = before ++ '+' :: digits ++ behind)

theorem trimmed_of_readWhole? (read : readWhole? s = some n) : Trimmed s := by
  obtain ⟨digits, sign, decimal, -⟩ := readWhole?_eq_some.1 read
  have clear : ∀ c ∈ s, isBlank c = false := by
    rcases sign with rfl | rfl
    · exact decimal.not_blank
    · exact List.forall_mem_cons.2 ⟨by decide, decimal.not_blank⟩
  exact ⟨fun c first => clear c (List.mem_of_head? first),
    fun c last => clear c (List.mem_of_getLast? last)⟩

/-- What is left of a text without its outer blanks is read as a count if the text is one with
blanks around it. -/
theorem readWhole?_trim_eq_some : readWhole? (trim s) = some n ↔ Counts s n := by
  constructor
  · intro read
    obtain ⟨-, before, behind, front, back, parts⟩ := trim_eq_iff.1 (rfl : trim s = trim s)
    obtain ⟨digits, sign, decimal, fits⟩ := readWhole?_eq_some.1 read
    refine ⟨before, digits, behind, front, back, decimal, fits, ?_⟩
    rcases sign with same | same
    · exact .inl (by rw [← same]; exact parts)
    · exact .inr (by rw [← same]; exact parts)
  · rintro ⟨before, digits, behind, front, back, decimal, fits, parts⟩
    obtain ⟨inner, read, same⟩ : ∃ inner, readWhole? inner = some n ∧
        s = before ++ inner ++ behind := by
      rcases parts with same | same
      · exact ⟨digits, readWhole?_eq_some.2 ⟨digits, .inl rfl, decimal, fits⟩, same⟩
      · exact ⟨'+' :: digits, readWhole?_eq_some.2 ⟨digits, .inr rfl, decimal, fits⟩, same⟩
    rw [trim_eq_iff.2 ⟨trimmed_of_readWhole? read, before, behind, front, back, same⟩, read]

end Text

end Nursery
