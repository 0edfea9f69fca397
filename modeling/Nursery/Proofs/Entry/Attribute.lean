import Mathlib.Data.List.Forall2
import Nursery.Entry.Attribute
import Nursery.Proofs.Text

/-!
# Which attributes are accepted

An option is documented as the name, an equals sign and a positive number, with blanks between
them.  It is read by what is cut off in front of the number, so more than that is accepted: any
number of equals signs, none included, and a plus sign.

* `Attribute.Sets` : the forms of an option that sets the number of workers.
* `Attribute.readOption_eq_ok` : **what is accepted is of one of these forms.**
* `Attribute.accepted_forms` : what an attribute is read as, and what it is refused for.
* `Attribute.undocumented_accepted` : an option is accepted that is not of the documented form.
-/

namespace Nursery

namespace Attribute

open Text

/-- An option sets the number of workers: the name, a number of equals signs and the positive
number, which fits a word and may have a plus sign, with blanks between them. -/
def Sets (marks : Nat) (plus : Bool) (option : List Char) (n : Nat) : Prop :=
  ∃ before behind digits, Blanks before ∧ Blanks behind ∧ Decimal digits n ∧ 0 < n ∧ n < wordSize ∧
    option = optionName ++ (before ++ (List.replicate marks '=' ++
      (behind ++ ((if plus then ['+'] else []) ++ digits))))

/-- **The documented form of an option**: one equals sign and no plus sign. -/
def Documented (option : List Char) (n : Nat) : Prop :=
  Sets 1 false option n

/-- The option is read as a number of workers. -/
def Accepts (option : List Char) (n : Nat) : Prop :=
  ∃ marks plus, Sets marks plus option n

/-- What is wrong with an option that is not accepted: it does not begin with the name, or what
stands behind the name and the equals signs is not a positive number. -/
def blame (option : List Char) : Error :=
  if optionName <+: option then
    .notPositive (String.ofList (valueText (option.drop optionName.length)))
  else .unknownOption (String.ofList option)

variable {option : List Char} {n m marks marks' : Nat} {plus plus' : Bool}

/-! ### The parts of a text -/

theorem splitCommas_parts (text : List Char) :
    [','].intercalate (splitCommas text) = text ∧ ∀ part ∈ splitCommas text, ',' ∉ part := by
  induction text using splitCommas.induct with
  | case1 => exact ⟨rfl, by simp [splitCommas]⟩
  | case2 rest ih =>
    obtain ⟨joined, clear⟩ := ih
    have some_ : splitCommas rest ≠ [] := by
      rw [splitCommas.eq_def]
      split <;> try split
      all_goals simp
    refine ⟨?_, List.forall_mem_cons.2 ⟨List.not_mem_nil, clear⟩⟩
    rw [splitCommas, List.intercalate_cons_of_ne_nil some_, joined]
    rfl
  | case3 c rest other none ih =>
    obtain ⟨joined, -⟩ := ih
    rw [none] at joined
    rw [splitCommas, none, ← joined]
    · exact ⟨rfl, by simpa using Ne.symm other⟩
    · exact other
  | case4 c rest other part parts split ih =>
    obtain ⟨joined, clear⟩ := ih
    rw [split] at joined clear
    obtain ⟨first, others⟩ := List.forall_mem_cons.1 clear
    rw [splitCommas, split]
    · refine ⟨?_, List.forall_mem_cons.2 ⟨by simp [first, Ne.symm other], others⟩⟩
      rw [← joined]
      cases parts <;> rfl
    · exact other

theorem trimmed_of_mem_options {text : List Char} (h : option ∈ options text) : Trimmed option := by
  obtain ⟨part, -, trimmed⟩ := List.mem_map.1 (List.mem_filter.1 h).1
  exact (trim_eq_iff.1 trimmed).1

/-! ### One option -/

theorem behind?_eq_some {start s rest : List Char} :
    behind? start s = some rest ↔ s = start ++ rest := by
  induction start generalizing s with
  | nil => simp [behind?, eq_comm]
  | cons c start ih =>
    cases s with
    | nil => simp [behind?]
    | cons d s =>
      by_cases same : c = d
      · simp [behind?, same, ih]
      · simp [behind?, same, Ne.symm same]

/-- What stands for a number, with its plus sign, begins and ends with something that is neither
blank nor an equals sign. -/
theorem signed_edges {digits : List Char} (decimal : Decimal digits n) (plus : Bool) :
    Trimmed ((if plus then ['+'] else []) ++ digits) ∧
      ((if plus then ['+'] else []) ++ digits).head? ≠ some '=' := by
  have inner : ∀ c ∈ (if plus then ['+'] else []) ++ digits, isBlank c = false ∧ c ≠ '=' := by
    intro c there
    rcases List.mem_append.1 there with sign | digit
    · cases plus with
      | true => rw [List.mem_singleton.1 sign]; decide
      | false => cases sign
    · refine ⟨decimal.not_blank c digit, ?_⟩
      rintro rfl
      exact decimal.not_mem (by decide) digit
  exact ⟨⟨fun c first => (inner c (List.mem_of_head? first)).1,
    fun c last => (inner c (List.mem_of_getLast? last)).1⟩,
    fun first => (inner _ (List.mem_of_head? first)).2 rfl⟩

theorem marks_and_value {before behind value : List Char} (front : Blanks before)
    (back : Blanks behind) (trimmed : Trimmed value) (plain : value.head? ≠ some '=') :
    (trimStart (before ++ (List.replicate marks '=' ++ (behind ++ value)))).takeWhile (· = '=') =
        List.replicate marks '=' ∧
      valueText (before ++ (List.replicate marks '=' ++ (behind ++ value))) = value := by
  have unmarked : ∀ s : List Char, s.head? ≠ some '=' →
      s.takeWhile (· = '=') = [] ∧ s.dropWhile (· = '=') = s := by
    intro s other
    cases s with
    | nil => exact ⟨rfl, rfl⟩
    | cons c rest =>
      have other : c ≠ '=' := fun same => other (congrArg some same)
      exact ⟨List.takeWhile_cons_of_neg (by simpa using other),
        List.dropWhile_cons_of_neg (by simpa using other)⟩
  rw [valueText, trimStart_append front]
  cases marks with
  | zero =>
    -- the blanks on both sides of no mark are cut off at once
    rw [List.replicate_zero, List.nil_append, trimStart_append back, trimStart_eq_self trimmed.1,
      (unmarked value plain).1, (unmarked value plain).2]
    exact ⟨rfl, trim_eq_iff.2 ⟨trimmed, [], [], .nil, .nil, by simp⟩⟩
  | succ marks =>
    have stop : (behind ++ value).head? ≠ some '=' := by
      cases behind with
      | nil => exact plain
      | cons c rest =>
        intro same
        have blank := back c List.mem_cons_self
        rw [Option.some.inj same] at blank
        exact absurd blank (by decide)
    have all : ∀ c ∈ List.replicate (marks + 1) '=', decide (c = '=') = true := fun c there =>
      decide_eq_true (List.eq_of_mem_replicate there)
    rw [trimStart_eq_self (by rw [List.replicate_succ]; rintro c ⟨⟩; decide),
      List.takeWhile_append_of_pos all, List.dropWhile_append_of_pos all, (unmarked _ stop).1,
      (unmarked _ stop).2, List.append_nil]
    exact ⟨rfl, trim_eq_iff.2 ⟨trimmed, behind, [], back, .nil, by simp⟩⟩

/-- **An option is accepted exactly in one of these forms**, for the number that it gives. -/
theorem readOption_eq_ok (trimmed : Trimmed option) :
    readOption option = .ok n ↔ Accepts option n := by
  have read : readOption option = .ok n ↔
      ∃ rest, option = optionName ++ rest ∧ readWhole? (valueText rest) = some n ∧ 0 < n := by
    rw [readOption]
    cases named : behind? optionName option with
    | none =>
      refine iff_of_false nofun ?_
      rintro ⟨rest, same, -⟩
      rw [behind?_eq_some.2 same] at named
      cases named
    | some rest =>
      have only : ∀ rest', option = optionName ++ rest' ↔ rest' = rest := fun rest' => by
        rw [behind?_eq_some.1 named, List.append_cancel_left_eq, eq_comm]
      simp only [only, exists_eq_left]
      cases readWhole? (valueText rest) with
      | none => exact iff_of_false nofun nofun
      | some k =>
        cases k with
        | zero =>
          refine iff_of_false nofun fun h => ?_
          cases h.1
          exact Nat.lt_irrefl 0 h.2
        | succ k =>
          refine ⟨fun h => ?_, fun h => ?_⟩
          · cases h
            exact ⟨rfl, Nat.succ_pos k⟩
          · cases h.1
            rfl
  rw [read]
  constructor
  · rintro ⟨rest, rfl, value, positive⟩
    obtain ⟨digits, sign, decimal, fits⟩ := readWhole?_eq_some.1 value
    obtain ⟨before, front, parts, -⟩ := trimStart_parts rest
    obtain ⟨⟨-, edge⟩, behind, tail, back, blank, cut⟩ := trim_eq_iff.1 (rfl : valueText rest = _)
    have marked := (@List.takeWhile_append_dropWhile _ (· = '=') (trimStart rest)).symm
    have run := List.eq_replicate_of_mem (l := (trimStart rest).takeWhile (· = '=')) (a := '=')
      fun c there => of_decide_eq_true (@List.mem_takeWhile_imp _ (· = '=') _ _ there)
    rw [cut, run] at marked
    rw [marked] at parts
    -- the option ends with the number, so no blanks were cut off behind it
    have ends : tail = [] := by
      by_contra some_
      obtain ⟨c, last⟩ := Option.ne_none_iff_exists'.1 (mt List.getLast?_eq_none_iff.1 some_)
      have clear := trimmed.2 c (by rw [parts]; simp [List.getLast?_append, last])
      rw [blank c (List.mem_of_getLast? last)] at clear
      cases clear
    rw [ends, List.append_nil] at parts
    rcases sign with same | same
    · exact ⟨_, false, before, behind, digits, front, back, decimal, positive, fits,
        congrArg _ (parts.trans (by rw [same]; rfl))⟩
    · exact ⟨_, true, before, behind, digits, front, back, decimal, positive, fits,
        congrArg _ (parts.trans (by rw [same]; rfl))⟩
  · rintro ⟨marks, plus, before, behind, digits, front, back, decimal, positive, fits, rfl⟩
    obtain ⟨edges, plain⟩ := signed_edges decimal plus
    refine ⟨_, rfl, ?_, positive⟩
    rw [(marks_and_value front back edges plain).2]
    refine readWhole?_eq_some.2 ⟨digits, ?_, decimal, fits⟩
    cases plus
    · exact .inl rfl
    · exact .inr rfl

/-- An option is of one of these forms at most, and for one number. -/
theorem Sets.unique (h : Sets marks plus option n) (h' : Sets marks' plus' option m) :
    marks = marks' ∧ plus = plus' ∧ n = m := by
  obtain ⟨before, behind, digits, front, back, decimal, -, -, same⟩ := h
  obtain ⟨before', behind', digits', front', back', decimal', -, -, same'⟩ := h'
  rw [same, List.append_cancel_left_eq] at same'
  obtain ⟨edges, plain⟩ := signed_edges decimal plus
  obtain ⟨edges', plain'⟩ := signed_edges decimal' plus'
  have parts := @marks_and_value marks _ _ _ front back edges plain
  have parts' := @marks_and_value marks' _ _ _ front' back' edges' plain'
  rw [same'] at parts
  obtain ⟨run, value⟩ := parts
  rw [parts'.1] at run
  rw [parts'.2] at value
  have signs : plus = plus' ∧ digits = digits' := by
    cases plus <;> cases plus'
    · exact ⟨rfl, value.symm⟩
    · have same : '+' :: digits' = digits := value
      exact absurd (same ▸ List.mem_cons_self) (decimal.not_mem (by decide))
    · have same : digits' = '+' :: digits := value
      exact absurd (same ▸ List.mem_cons_self) (decimal'.not_mem (by decide))
    · exact ⟨rfl, (List.cons.inj value).2.symm⟩
  obtain ⟨rfl, rfl⟩ := signs
  exact ⟨by simpa using congrArg List.length run.symm, rfl, decimal.unique decimal'⟩

theorem readOption_eq_error (trimmed : Trimmed option) {e : Error} :
    readOption option = .error e ↔ (∀ n, ¬ Accepts option n) ∧ e = blame option := by
  have total : readOption option = .error (blame option) ∨ ∃ n, readOption option = .ok n := by
    rw [readOption, blame]
    cases named : behind? optionName option with
    | none =>
      have other : ¬ optionName <+: option := by
        rintro ⟨rest, same⟩
        rw [behind?_eq_some.2 same.symm] at named
        cases named
      exact .inl (by rw [if_neg other])
    | some rest =>
      obtain rfl := behind?_eq_some.1 named
      rw [if_pos (List.prefix_append ..), List.drop_left]
      dsimp only
      cases readWhole? (valueText rest) with
      | none => exact .inl rfl
      | some n =>
        cases n with
        | zero => exact .inl rfl
        | succ n => exact .inr ⟨n + 1, rfl⟩
  constructor
  · intro refused
    refine ⟨fun n taken => ?_, ?_⟩
    · rw [(readOption_eq_ok trimmed).2 taken] at refused
      cases refused
    · rcases total with wrong | ⟨n, taken⟩
      · exact Except.error.inj (refused.symm.trans wrong)
      · cases refused.symm.trans taken
  · rintro ⟨none, rfl⟩
    exact total.resolve_right fun ⟨n, taken⟩ => none n ((readOption_eq_ok trimmed).1 taken)

/-! ### All options -/

theorem readOptions_eq_ok {parts : List (List Char)} (trimmed : ∀ o ∈ parts, Trimmed o)
    {asked r : Option Nat} : readOptions asked parts = .ok r ↔
      ∃ ns, List.Forall₂ Accepts parts ns ∧ r = ns.getLast?.or asked := by
  induction parts generalizing asked with
  | nil => simp [readOptions, eq_comm]
  | cons option parts ih =>
    obtain ⟨first, others⟩ := List.forall_mem_cons.1 trimmed
    rw [readOptions]
    cases read : readOption option with
    | error e =>
      refine iff_of_false nofun ?_
      rintro ⟨ns, all, -⟩
      obtain ⟨n, taken⟩ : ∃ n, Accepts option n := by
        cases all with
        | cons taken => exact ⟨_, taken⟩
      exact ((readOption_eq_error first).1 read).1 n taken
    | ok n =>
      have taken := (readOption_eq_ok first).1 read
      refine (ih others).trans ⟨?_, ?_⟩
      · rintro ⟨ns, all, rfl⟩
        exact ⟨n :: ns, .cons taken all, by rw [List.getLast?_cons]; cases ns.getLast? <;> rfl⟩
      · rintro ⟨ns, all, rfl⟩
        cases all with
        | @cons _ m _ ns taken' all =>
          obtain ⟨marks, plus, sets⟩ := taken
          obtain ⟨marks', plus', sets'⟩ := taken'
          obtain ⟨-, -, rfl⟩ := sets.unique sets'
          exact ⟨ns, all, by rw [List.getLast?_cons]; cases ns.getLast? <;> rfl⟩

theorem readOptions_eq_error {parts : List (List Char)} (trimmed : ∀ o ∈ parts, Trimmed o)
    {asked : Option Nat} {e : Error} : readOptions asked parts = .error e ↔
      ∃ before option after, parts = before ++ option :: after ∧
        (∀ o ∈ before, ∃ n, Accepts o n) ∧ (∀ n, ¬ Accepts option n) ∧ e = blame option := by
  induction parts generalizing asked with
  | nil => simp [readOptions]
  | cons option parts ih =>
    obtain ⟨first, others⟩ := List.forall_mem_cons.1 trimmed
    rw [readOptions]
    cases read : readOption option with
    | error e' =>
      obtain ⟨none, rfl⟩ := (readOption_eq_error first).1 read
      constructor
      · intro same
        cases same
        exact ⟨[], option, parts, rfl, nofun, none, rfl⟩
      · rintro ⟨before, option', after, same, fine, -, rfl⟩
        cases before with
        | nil =>
          obtain ⟨rfl, -⟩ := List.cons.inj same
          rfl
        | cons o before =>
          obtain ⟨rfl, -⟩ := List.cons.inj same
          obtain ⟨n, taken⟩ := fine _ List.mem_cons_self
          exact absurd taken (none n)
    | ok n =>
      have taken := (readOption_eq_ok first).1 read
      refine (ih others).trans ⟨?_, ?_⟩
      · rintro ⟨before, option', after, rfl, fine, wrong⟩
        exact ⟨option :: before, option', after, rfl,
          List.forall_mem_cons.2 ⟨⟨n, taken⟩, fine⟩, wrong⟩
      · rintro ⟨before, option', after, same, fine, none, blamed⟩
        cases before with
        | nil =>
          obtain ⟨rfl, -⟩ := List.cons.inj same
          exact absurd taken (none n)
        | cons o before =>
          obtain ⟨rfl, rfl⟩ := List.cons.inj same
          exact ⟨before, option', after, rfl, (List.forall_mem_cons.1 fine).2, none, blamed⟩

/-- **What an attribute is read as.**  Its options are what stands between its commas, trimmed and
without what is empty.  Without options it asks for nothing; if each sets a number of workers, it
asks for the number of the last one; and otherwise it is refused for the first one that does not.
An option sets a number in the documented form, or with no equals sign, with several of them or
with a plus sign, which is never the documented form. -/
theorem accepted_forms (text : String) :
    ([','].intercalate (splitCommas text.toList) = text.toList ∧
      ∀ part ∈ splitCommas text.toList, ',' ∉ part) ∧
    (workers? text = .ok none ↔ options text.toList = []) ∧
    (∀ n, workers? text = .ok (some n) ↔
      ∃ ns, List.Forall₂ Accepts (options text.toList) ns ∧ ns.getLast? = some n) ∧
    (∀ e, workers? text = .error e ↔ ∃ before option after,
      options text.toList = before ++ option :: after ∧ (∀ o ∈ before, ∃ n, Accepts o n) ∧
        (∀ n, ¬ Accepts option n) ∧ e = blame option) ∧
    (∀ option n, Accepts option n ↔ Documented option n ∨
      ∃ marks plus, (marks ≠ 1 ∨ plus = true) ∧ Sets marks plus option n) ∧
    ∀ option marks plus n, (marks ≠ 1 ∨ plus = true) → Sets marks plus option n →
      ∀ m, ¬ Documented option m := by
  have trimmed : ∀ o ∈ options text.toList, Trimmed o := fun o => trimmed_of_mem_options
  refine ⟨splitCommas_parts _, ?_, fun n => ?_, fun e => readOptions_eq_error trimmed,
    fun option n => ⟨?_, ?_⟩, fun option marks plus n other sets m documented => ?_⟩
  · rw [workers?, readOptions_eq_ok trimmed]
    constructor
    · rintro ⟨ns, all, last⟩
      rw [Option.or_none, eq_comm, List.getLast?_eq_none_iff] at last
      subst last
      exact List.forall₂_nil_right_iff.1 all
    · intro none
      exact ⟨[], none ▸ .nil, rfl⟩
  · rw [workers?, readOptions_eq_ok trimmed]
    simp only [Option.or_none, eq_comm]
  · rintro ⟨marks, plus, sets⟩
    by_cases usual : marks = 1 ∧ plus = false
    · obtain ⟨rfl, rfl⟩ := usual
      exact .inl sets
    · refine .inr ⟨marks, plus, ?_, sets⟩
      rw [not_and_or, Bool.not_eq_false] at usual
      exact usual
  · rintro (documented | ⟨marks, plus, -, sets⟩)
    · exact ⟨1, false, documented⟩
    · exact ⟨marks, plus, sets⟩
  · obtain ⟨one, unsigned, -⟩ := sets.unique documented
    rcases other with several | signed
    · exact several one
    · rw [signed] at unsigned
      cases unsigned

/-- **An option without an equals sign is accepted**: it looks like a longer name. -/
theorem undocumented_accepted : ¬ ∀ text n, workers? text = .ok (some n) →
    ∀ option ∈ options text.toList, ∃ m, Documented option m := by
  intro claim
  have read : workers? "worker_threads5" = .ok (some 5) := by decide
  have only : options "worker_threads5".toList = ["worker_threads5".toList] := by decide
  obtain ⟨m, documented⟩ :=
    claim _ 5 read "worker_threads5".toList (only ▸ List.mem_singleton_self _)
  have sets : Sets 0 false "worker_threads5".toList 5 :=
    ⟨[], [], ['5'], .nil, .nil, ⟨[5], by decide, by decide, by decide, by decide⟩, by decide,
      by decide, by decide⟩
  cases (sets.unique documented).1

end Attribute

end Nursery
