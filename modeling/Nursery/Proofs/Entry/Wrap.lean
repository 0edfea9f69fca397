import Mathlib.Data.List.Infix
import Nursery.Entry.Wrap

/-!
# What wrapping does to an item

A function is documented to lose the `async` that qualifies it and to get its body wrapped, and
without a body it has no wrapped form.  Both places are searched for in the row of its tokens, the
first `async` and the last block, so more than that is touched: an `async` behind `fn`, and a block
of the signature of a function that has no body.

* `Entry.body?`, `Entry.unqualified`, `Entry.documented?` : what is documented.
* `Entry.replaceLastBlock?_eq_some`, `Entry.eraseWord_parts` : what the two searches find.
* `Entry.wrapped` : **when an item is wrapped as documented**, and what becomes of it in general.
* `Entry.bodiless_wrapped` : an item without a body is wrapped.
-/

namespace Nursery

namespace Entry

variable {item out sig : List Token} {text : String} {f : List Token → List Token}
  {workers : Option Nat} {body : List Token}

/-! ### What is documented -/

/-- The body of an item: its last token, if that is a block. -/
def body? (item : List Token) : Option (List Token) :=
  match item.getLast? with
  | some (.group .brace body) => some body
  | _ => none

/-- What stands before `fn`. -/
def qualifiers (item : List Token) : List Token :=
  item.takeWhile fun token => !token.isWord "fn"

/-- The item without the `async` that stands before `fn`, if there is one. -/
def unqualified (item : List Token) : List Token :=
  eraseWord "async" (qualifiers item) ++ item.dropWhile fun token => !token.isWord "fn"

/-- A block that builds a runtime and blocks on a body, in the place of the body. -/
def wrapper (workers : Option Nat) (body : List Token) : Token :=
  .group .brace [.group .brace (block workers body)]

/-- **The documented form of a wrapped item**: without the `async` that qualifies it, and with its
body wrapped. -/
def documented? (item : List Token) (workers : Option Nat) : Option (List Token) :=
  (body? item).map fun body => (unqualified item).dropLast ++ [wrapper workers body]

/-- No token of the list, its groups not looked into, is the word. -/
def Lacks (text : String) (item : List Token) : Prop :=
  ∀ token ∈ item, token.isWord text = false

/-- No token of the list, its groups not looked into, is a block. -/
def Blockless (item : List Token) : Prop :=
  ∀ token ∈ item, token.isBlock = false

/-! ### The two searches -/

theorem isWord_iff {token : Token} : token.isWord text = true ↔ token = .word text := by
  cases token <;> simp [Token.isWord]

theorem isBlock_iff {token : Token} :
    token.isBlock = true ↔ ∃ body, token = .group .brace body := by
  cases token with
  | word => simp [Token.isBlock]
  | group d => cases d <;> simp [Token.isBlock]

theorem eraseWord_append_of_lacks (lacks : Lacks text item) (rest : List Token) :
    eraseWord text (item ++ rest) = item ++ eraseWord text rest := by
  induction item with
  | nil => rfl
  | cons token item ih =>
    obtain ⟨other, lacks⟩ := List.forall_mem_cons.1 lacks
    rw [List.cons_append, eraseWord, if_neg (by simp [other]), ih lacks, List.cons_append]

theorem eraseWord_of_lacks (lacks : Lacks text item) : eraseWord text item = item := by
  simpa [eraseWord] using eraseWord_append_of_lacks lacks []

theorem lacks_or_first (text : String) (item : List Token) : Lacks text item ∨
    ∃ before after, item = before ++ .word text :: after ∧ Lacks text before := by
  induction item with
  | nil => exact .inl nofun
  | cons token item ih =>
    by_cases here : token.isWord text = true
    · obtain rfl := isWord_iff.1 here
      exact .inr ⟨[], item, rfl, nofun⟩
    · rw [Bool.not_eq_true] at here
      rcases ih with lacks | ⟨before, after, rfl, lacks⟩
      · exact .inl (List.forall_mem_cons.2 ⟨here, lacks⟩)
      · exact .inr ⟨token :: before, after, rfl, List.forall_mem_cons.2 ⟨here, lacks⟩⟩

theorem eraseWord_first {before after : List Token} (lacks : Lacks text before) :
    eraseWord text (before ++ .word text :: after) = before ++ after := by
  rw [eraseWord_append_of_lacks lacks, eraseWord, if_pos (isWord_iff.2 rfl)]

/-- **The first of the words goes**, wherever it stands, and nothing else. -/
theorem eraseWord_parts (text : String) (item : List Token) :
    Lacks text item ∧ eraseWord text item = item ∨ ∃ before after,
      item = before ++ .word text :: after ∧ Lacks text before ∧
        eraseWord text item = before ++ after := by
  rcases lacks_or_first text item with lacks | ⟨before, after, rfl, lacks⟩
  · exact .inl ⟨lacks, eraseWord_of_lacks lacks⟩
  · exact .inr ⟨before, after, rfl, lacks, eraseWord_first lacks⟩

theorem eraseWord_eq_self : eraseWord text item = item ↔ Lacks text item := by
  rcases eraseWord_parts text item with ⟨lacks, same⟩ | ⟨before, after, rfl, -, same⟩
  · exact iff_of_true same lacks
  · rw [same]
    refine iff_of_false (fun same => ?_) fun lacks => ?_
    · simpa using congrArg List.length same
    · simpa [Token.isWord] using lacks (.word text) (by simp)

theorem replaceLastBlock?_of_blockless (blockless : Blockless item) :
    replaceLastBlock? f item = none := by
  induction item with
  | nil => rfl
  | cons token item ih =>
    obtain ⟨plain, blockless⟩ := List.forall_mem_cons.1 blockless
    rw [replaceLastBlock?, ih blockless]
    simp [plain]

theorem replaceLastBlock?_last (before : List Token) {after : List Token}
    (blockless : Blockless after) :
    replaceLastBlock? f (before ++ .group .brace body :: after) =
      some (before ++ .group .brace (f body) :: after) := by
  induction before with
  | nil =>
    rw [List.nil_append, replaceLastBlock?, replaceLastBlock?_of_blockless blockless]
    rfl
  | cons token before ih => rw [List.cons_append, replaceLastBlock?, ih]; rfl

theorem blockless_or_last (item : List Token) : Blockless item ∨
    ∃ before body after, item = before ++ .group .brace body :: after ∧ Blockless after := by
  induction item with
  | nil => exact .inl nofun
  | cons token item ih =>
    rcases ih with blockless | ⟨before, body, after, rfl, blockless⟩
    · by_cases here : token.isBlock = true
      · obtain ⟨body, rfl⟩ := isBlock_iff.1 here
        exact .inr ⟨[], body, item, rfl, blockless⟩
      · rw [Bool.not_eq_true] at here
        exact .inl (List.forall_mem_cons.2 ⟨here, blockless⟩)
    · exact .inr ⟨token :: before, body, after, rfl, blockless⟩

theorem replaceLastBlock?_eq_none : replaceLastBlock? f item = none ↔ Blockless item := by
  refine ⟨fun none_ => ?_, replaceLastBlock?_of_blockless⟩
  rcases blockless_or_last item with blockless | ⟨before, body, after, rfl, blockless⟩
  · exact blockless
  · rw [replaceLastBlock?_last before blockless] at none_
    cases none_

/-- **The last of the blocks is replaced**, wherever it stands, and nothing else. -/
theorem replaceLastBlock?_eq_some : replaceLastBlock? f item = some out ↔
    ∃ before body after, item = before ++ .group .brace body :: after ∧ Blockless after ∧
      out = before ++ .group .brace (f body) :: after := by
  constructor
  · intro found
    rcases blockless_or_last item with blockless | ⟨before, body, after, rfl, blockless⟩
    · rw [replaceLastBlock?_of_blockless blockless] at found
      cases found
    · rw [replaceLastBlock?_last before blockless] at found
      cases found
      exact ⟨before, body, after, rfl, blockless, rfl⟩
  · rintro ⟨before, body, after, rfl, blockless, rfl⟩
    exact replaceLastBlock?_last before blockless

/-! ### The documented places -/

theorem unqualified_cases (item : List Token) :
    Lacks "async" (qualifiers item) ∧ unqualified item = item ∨
      ¬ Lacks "async" (qualifiers item) ∧ unqualified item = eraseWord "async" item := by
  have parts : item = qualifiers item ++ item.dropWhile fun token => !token.isWord "fn" :=
    List.takeWhile_append_dropWhile.symm
  rcases lacks_or_first "async" (qualifiers item) with lacks | ⟨before, after, split, lacks⟩
  · refine .inl ⟨lacks, ?_⟩
    rw [unqualified, eraseWord_of_lacks lacks]
    exact parts.symm
  · refine .inr ⟨fun all => ?_, ?_⟩
    · simpa [Token.isWord] using all (.word "async") (by simp [split])
    · rw [unqualified, split, eraseWord_first lacks]
      conv_rhs => rw [parts, split, List.append_assoc, List.cons_append, eraseWord_first lacks]
      exact List.append_assoc ..

theorem eraseWord_eq_unqualified : eraseWord "async" item = unqualified item ↔
    (Lacks "async" (qualifiers item) → Lacks "async" item) := by
  rcases unqualified_cases item with ⟨lacks, same⟩ | ⟨qualified, same⟩
  · rw [same, eraseWord_eq_self]
    exact ⟨fun all _ => all, fun all => all lacks⟩
  · exact iff_of_true same.symm fun lacks => absurd lacks qualified

theorem eraseWord_concat (sig : List Token) (body : List Token) : ∃ sig',
    eraseWord text (sig ++ [.group .brace body]) = sig' ++ [.group .brace body] := by
  rcases lacks_or_first text sig with lacks | ⟨before, after, rfl, lacks⟩
  · exact ⟨sig, by rw [eraseWord_append_of_lacks lacks]; rfl⟩
  · exact ⟨before ++ after, by simp [eraseWord_first lacks]⟩

theorem body?_eq_some : body? item = some body ↔ ∃ sig, item = sig ++ [.group .brace body] := by
  rw [body?]
  constructor
  · intro found
    split at found
    · rename_i last
      obtain ⟨sig, rfl⟩ := List.getLast?_eq_some_iff.1 last
      cases found
      exact ⟨sig, rfl⟩
    · cases found
  · rintro ⟨sig, rfl⟩
    rw [List.getLast?_concat]

theorem wrap?_eq_none : wrap? item workers = none ↔ Blockless item := by
  rw [wrap?, replaceLastBlock?_eq_none]
  rcases eraseWord_parts "async" item with ⟨-, same⟩ | ⟨before, after, rfl, -, same⟩
  · rw [same]
  · rw [same, Blockless, Blockless]
    simp [or_imp, forall_and, Token.isBlock]

theorem wrap?_concat (sig : List Token) : wrap? (sig ++ [.group .brace body]) workers = some
    ((eraseWord "async" (sig ++ [.group .brace body])).dropLast ++ [wrapper workers body]) := by
  obtain ⟨sig', same⟩ := @eraseWord_concat "async" sig body
  rw [wrap?, same, List.dropLast_concat]
  exact replaceLastBlock?_last sig' nofun

/-- **When an item is wrapped as documented**: an item without a body holds no block, and an item
with a body and no `async` before `fn` holds no `async`. -/
theorem wrap?_eq_documented? : wrap? item workers = documented? item workers ↔
    (body? item = none → Blockless item) ∧
      (body? item ≠ none → Lacks "async" (qualifiers item) → Lacks "async" item) := by
  rw [documented?]
  cases has : body? item with
  | none => simpa using wrap?_eq_none
  | some body =>
    obtain ⟨sig, rfl⟩ := body?_eq_some.1 has
    obtain ⟨sig', erased⟩ := @eraseWord_concat "async" sig body
    obtain ⟨sig'', documented⟩ : ∃ sig'', unqualified (sig ++ [.group .brace body]) =
        sig'' ++ [.group .brace body] := by
      rcases unqualified_cases (sig ++ [.group .brace body]) with ⟨-, same⟩ | ⟨-, same⟩
      · exact ⟨sig, same⟩
      · exact ⟨sig', same.trans erased⟩
    rw [wrap?_concat, ← eraseWord_eq_unqualified, erased, documented]
    simp

/-! ### The block -/

theorem block_workers (arguments : List Token) :
    call "worker_threads" arguments <:+: block workers body ↔
      ∃ n, workers = some n ∧ arguments = [.word (toString n)] := by
  cases workers with
  | none =>
    refine iff_of_false ?_ nofun
    simp [block, builder, path, call, List.infix_cons_iff, List.cons_prefix_cons]
  | some m => simp [block, builder, path, call, List.infix_cons_iff, List.cons_prefix_cons]

theorem block_body (workers : Option Nat) (body : List Token) : [.word "runtime"] ++
    call "block_on" [.word "async", .word "move", .group .brace body] <:+ block workers body :=
  ⟨[.word "let", .word "runtime", .word "="] ++ builder workers ++ [.word ";"], by simp [block]⟩

/-! ### Items -/

/-- **What becomes of an item.**  It is wrapped as documented exactly if it holds no block unless it
has a body, and no `async` with a body unless one stands before `fn`.  In general an item is refused
if it holds no block, the first `async` goes wherever it stands, the last block is wrapped wherever
it stands, and nothing else is touched; the block that takes the place sets the number of workers
exactly if one is given, and blocks on what it replaces. -/
theorem wrapped (item : List Token) (workers : Option Nat) :
    (wrap? item workers = documented? item workers ↔
      (body? item = none → Blockless item) ∧
        (body? item ≠ none → Lacks "async" (qualifiers item) → Lacks "async" item)) ∧
    (wrap? item workers = none ↔ Blockless item) ∧
    (∀ out, wrap? item workers = some out ↔ ∃ before body after,
      eraseWord "async" item = before ++ .group .brace body :: after ∧ Blockless after ∧
        out = before ++ wrapper workers body :: after) ∧
    (Lacks "async" item ∧ eraseWord "async" item = item ∨ ∃ before after,
      item = before ++ .word "async" :: after ∧ Lacks "async" before ∧
        eraseWord "async" item = before ++ after) ∧
    ∀ body, [.word "let", .word "runtime", .word "="] ++
          path ["weft", "RuntimeBuilder", "new"] <+: block workers body ∧
        [.word "runtime"] ++ call "block_on" [.word "async", .word "move", .group .brace body] <:+
          block workers body ∧
        ∀ arguments, call "worker_threads" arguments <:+: block workers body ↔
          ∃ n, workers = some n ∧ arguments = [.word (toString n)] :=
  ⟨wrap?_eq_documented?, wrap?_eq_none, fun _ => replaceLastBlock?_eq_some,
    eraseWord_parts "async" item, fun body =>
      ⟨⟨_, by simp only [block, builder, List.append_assoc]; rfl⟩, block_body workers body,
        fun arguments => block_workers arguments⟩⟩

/-- The declaration of a function that has no body, and a block in the type of its result. -/
def bodiless : List Token :=
  [.word "async", .word "fn", .word "f", .group .parenthesis [], .word "-", .word ">", .word "A",
    .word "<", .group .brace [.word "3"], .word ">", .word ";"]

/-- **An item without a body is wrapped**: the block of its signature is taken for one. -/
theorem bodiless_wrapped : ¬ ∀ item workers, wrap? item workers = documented? item workers := by
  intro claim
  have blocks : Blockless bodiless := ((wrap?_eq_documented?.1 (claim bodiless none)).1 rfl)
  simpa [Token.isBlock] using blocks (.group .brace [.word "3"]) (by simp [bodiless])

/-- The name of a function that is not asynchronous goes. -/
example : eraseWord "async" [.word "fn", .word "async", .group .parenthesis [], .group .brace []] =
    [.word "fn", .group .parenthesis [], .group .brace []] := rfl

end Entry

end Nursery
