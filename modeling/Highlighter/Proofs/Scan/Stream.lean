import Highlighter.Proofs.Scan.Rules
import Highlighter.Scan.Stream

/-! The tokens of a text stand one after the other and cover it. A scan keeps nothing from one token
to the next, so one that begins where a token begins gives the tokens from there on. -/
namespace Highlighter.Scan

/-- Tokens that are not empty and follow each other without a gap from `start` up to `stop`. -/
def Gapless (start stop : Nat) : List Token → Prop
  | [] => start = stop
  | t :: ts => t.start = start ∧ 0 < t.length ∧ Gapless t.stop stop ts

theorem Gapless.le {start stop : Nat} {ts : List Token} (gapless : Gapless start stop ts) :
    start ≤ stop := by
  induction ts generalizing start with
  | nil => exact Nat.le_of_eq gapless
  | cons t ts ih =>
    obtain ⟨begins, _, later⟩ := gapless
    have bound := ih later
    rw [Token.stop] at bound
    omega

theorem Gapless.stop_le {start stop : Nat} {ts : List Token} (gapless : Gapless start stop ts) :
    ∀ t ∈ ts, start ≤ t.start ∧ start < t.stop ∧ t.stop ≤ stop := by
  induction ts generalizing start with
  | nil => simp
  | cons t ts ih =>
    obtain ⟨begins, filled, later⟩ := gapless
    have bound := later.le
    have step : start < t.stop := by
      rw [Token.stop]
      omega
    intro u member
    rcases List.mem_cons.mp member with rfl | member
    · exact ⟨Nat.le_of_eq begins.symm, step, bound⟩
    · obtain ⟨after, past, within⟩ := ih later u member
      exact ⟨by omega, by omega, within⟩

theorem Gapless.filled {start stop : Nat} {ts : List Token} (gapless : Gapless start stop ts) :
    ∀ t ∈ ts, t.start < t.stop := by
  induction ts generalizing start with
  | nil => simp
  | cons t ts ih =>
    obtain ⟨_, positive, later⟩ := gapless
    intro u member
    rcases List.mem_cons.mp member with rfl | member
    · exact Nat.lt_add_of_pos_right positive
    · exact ih later u member

theorem Gapless.exists_start {start stop : Nat} {ts : List Token} (gapless : Gapless start stop ts)
    (filled : start < stop) : ∃ t ∈ ts, t.start = start := by
  cases ts with
  | nil => exact absurd gapless (Nat.ne_of_lt filled)
  | cons t ts => exact ⟨t, List.mem_cons_self, gapless.1⟩

theorem Gapless.exists_next {start stop : Nat} {ts : List Token} (gapless : Gapless start stop ts)
    {t : Token} (member : t ∈ ts) (before : t.stop < stop) : ∃ u ∈ ts, u.start = t.stop := by
  induction ts generalizing start with
  | nil => cases member
  | cons u ts ih =>
    obtain ⟨_, _, following⟩ := gapless
    rcases List.mem_cons.mp member with rfl | member
    · obtain ⟨v, among, begins⟩ := following.exists_start before
      exact ⟨v, List.mem_cons_of_mem _ among, begins⟩
    · obtain ⟨v, among, begins⟩ := ih following member
      exact ⟨v, List.mem_cons_of_mem _ among, begins⟩

/-- A token ends before any later one begins. -/
theorem Gapless.apart {start stop : Nat} {ts : List Token} (gapless : Gapless start stop ts) :
    ts.Pairwise fun t u => t.stop ≤ u.start := by
  induction ts generalizing start with
  | nil => exact .nil
  | cons t ts ih =>
    obtain ⟨_, _, later⟩ := gapless
    apply List.Pairwise.cons
    · intro u member
      exact (later.stop_le u member).1
    · exact ih later

/-- Gapless tokens stand in ascending order. -/
theorem Gapless.pairwise {start stop : Nat} {ts : List Token} (gapless : Gapless start stop ts) :
    ts.Pairwise fun t u => t.start ≤ u.start ∧ t.stop ≤ u.stop := by
  induction ts generalizing start with
  | nil => exact .nil
  | cons t ts ih =>
    obtain ⟨begins, filled, later⟩ := gapless
    refine .cons (fun u member => ?_) (ih later)
    obtain ⟨after, past, _⟩ := later.stop_le u member
    rw [Token.stop] at after
    exact ⟨by omega, Nat.le_of_lt past⟩

variable (d : Definition)

theorem tokensFrom_nil (offset : Nat) : tokensFrom d offset [] = [] := by
  rw [tokensFrom]

theorem tokensFrom_cons (offset : Nat) (c : Char) (rest : List Char) :
    tokensFrom d offset (c :: rest) =
      ⟨offset, (lexeme d c rest).more + 1, (lexeme d c rest).kind⟩ ::
        tokensFrom d (offset + ((lexeme d c rest).more + 1))
          (rest.drop (lexeme d c rest).more) := by
  rw [tokensFrom]

/-- A scan that gives whitespace gives every token. -/
theorem tokens_true (b : Buffer) (start : Nat) :
    tokens d b start true = tokensFrom d (min start b.length) (b.chars.drop start) :=
  List.filter_eq_self.mpr fun _ _ => rfl

theorem gapless_tokensFrom (offset : Nat) (cs : List Char) :
    Gapless offset (offset + cs.length) (tokensFrom d offset cs) := by
  fun_induction tokensFrom d offset cs with
  | case1 offset => exact (Nat.add_zero offset).symm
  | case2 offset c rest first ih =>
    have bound : first.more ≤ rest.length := lexeme_more_le d c rest
    have ends : offset + (first.more + 1) + (rest.drop first.more).length =
        offset + (c :: rest).length := by
      rw [List.length_drop, List.length_cons]
      omega
    rw [ends] at ih
    exact ⟨rfl, Nat.succ_pos _, ih⟩

theorem gapless_tokens_from (b : Buffer) (start : Nat) :
    Gapless (min start b.length) b.length (tokens d b start true) := by
  have gapless := gapless_tokensFrom d (min start b.length) (b.chars.drop start)
  have ends : min start b.length + (b.chars.drop start).length = b.length := by
    rw [List.length_drop, Buffer.length]
    omega
  rwa [ends, ← tokens_true] at gapless

theorem gapless_tokens (b : Buffer) : Gapless 0 b.length (tokens d b 0 true) := by
  have gapless := gapless_tokens_from d b 0
  rwa [Nat.zero_min] at gapless

theorem tokens_sublist (b : Buffer) (start : Nat) (emitWhitespace : Bool) :
    (tokens d b start emitWhitespace).Sublist (tokens d b start true) := by
  rw [tokens_true]
  exact List.filter_sublist

section Tokens
variable {d} {b : Buffer} {start : Nat} {emitWhitespace : Bool} {t u : Token}

theorem bounds_of_mem_tokens (member : t ∈ tokens d b start emitWhitespace) :
    t.start < t.stop ∧ t.stop ≤ b.length := by
  have given := (tokens_sublist d b start emitWhitespace).mem member
  have gapless := gapless_tokens_from d b start
  exact ⟨gapless.filled t given, (gapless.stop_le t given).2.2⟩

theorem apart_tokens (d : Definition) (b : Buffer) (start : Nat) (emitWhitespace : Bool) :
    (tokens d b start emitWhitespace).Pairwise fun t u => t.stop ≤ u.start :=
  (gapless_tokens_from d b start).apart.sublist (tokens_sublist d b start emitWhitespace)

/-- Tokens of a scan that share a character are the same token. -/
theorem eq_of_shared (one : t ∈ tokens d b start emitWhitespace)
    (other : u ∈ tokens d b start emitWhitespace) {k : Nat} (begins : t.start ≤ k)
    (before : k < t.stop) (alsoBegins : u.start ≤ k) (alsoBefore : k < u.stop) : u = t := by
  by_contra different
  have apart := apart_tokens d b start emitWhitespace
  have distant : ∀ t ∈ tokens d b start emitWhitespace, ∀ u ∈ tokens d b start emitWhitespace,
      t ≠ u → t.stop ≤ u.start ∨ u.stop ≤ t.start := by
    apply List.Pairwise.forall_of_forall_of_flip
    · intro t _ unequal
      exact absurd rfl unequal
    · exact apart.imp fun after _ => .inl after
    · exact apart.imp fun after _ => .inr after
  have := distant t one u other (Ne.symm different)
  omega

/-- No token follows one that ends with the text. -/
theorem getLast?_of_stop (member : t ∈ tokens d b start emitWhitespace)
    (ends : t.stop = b.length) : (tokens d b start emitWhitespace).getLast? = some t := by
  obtain ⟨earlier, later, whole⟩ := List.append_of_mem member
  cases later with
  | nil => rw [whole, List.getLast?_concat]
  | cons u later =>
    have apart := apart_tokens d b start emitWhitespace
    have among : u ∈ tokens d b start emitWhitespace := by simp [whole]
    have bounds := bounds_of_mem_tokens among
    rw [whole] at apart
    have after := (List.pairwise_cons.mp (List.pairwise_append.mp apart).2.1).1 u List.mem_cons_self
    omega

end Tokens

theorem length_tokensFrom_le (offset : Nat) (cs : List Char) :
    (tokensFrom d offset cs).length ≤ cs.length := by
  fun_induction tokensFrom d offset cs with
  | case1 => exact Nat.zero_le _
  | case2 offset c rest first ih =>
    rw [List.length_drop] at ih
    simp only [List.length_cons]
    omega

/-- Tokens at the end of a scan are those of a scan that begins with the first of them. -/
theorem tokensFrom_suffix {offset : Nat} {cs : List Char} {later : List Token}
    (suffix : later <:+ tokensFrom d offset cs) :
    ∃ n ≤ cs.length, later = tokensFrom d (offset + n) (cs.drop n) := by
  fun_induction tokensFrom d offset cs with
  | case1 offset =>
    refine ⟨0, Nat.le_refl _, ?_⟩
    rw [List.suffix_nil.mp suffix, List.drop_zero, tokensFrom_nil]
  | case2 offset c rest first ih =>
    rcases List.suffix_cons_iff.mp suffix with whole | suffix
    · exact ⟨0, Nat.zero_le _, whole.trans (tokensFrom_cons d offset c rest).symm⟩
    · obtain ⟨n, bound, same⟩ := ih suffix
      rw [List.length_drop] at bound
      have fits : first.more ≤ rest.length := lexeme_more_le d c rest
      have swap : first.more + 1 + n = first.more + n + 1 := Nat.add_right_comm _ _ _
      refine ⟨first.more + 1 + n, ?_, ?_⟩
      · rw [List.length_cons]
        omega
      · rw [same, List.drop_drop, Nat.add_assoc offset, swap, List.drop_succ_cons]

end Highlighter.Scan
