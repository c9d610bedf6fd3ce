import Facade.Proofs.Tokens

/-!
# Tokens as trees

The tokens of an expression are read as its tree whatever stands behind them, as long as that closes
the expression. The allowance of the readers is met by twenty for each token.

* `Closes`: an operand, and an expression, ends before a token.
* `PrimaryReads`, `FactorReads`, `ExprReads`: tokens are read as a tree; each kind is one of the
  next.
-/

namespace Facade.Syntax

/-- Tokens of one line. -/
def atLine (n : Nat) (ts : List Token) : List Lexeme := ts.map (⟨·, n⟩)

@[simp] theorem atLine_nil (n : Nat) : atLine n [] = [] := rfl

@[simp] theorem atLine_cons (n : Nat) (t : Token) (ts : List Token) :
    atLine n (t :: ts) = ⟨t, n⟩ :: atLine n ts := rfl

@[simp] theorem atLine_append (n : Nat) (ts us : List Token) :
    atLine n (ts ++ us) = atLine n ts ++ atLine n us := List.map_append

/-- The next token. -/
def nextToken : List Lexeme → Token
  | [] => .finish
  | l :: _ => l.token

@[simp] theorem nextToken_cons (t : Token) (n : Nat) (ls : List Lexeme) :
    nextToken (⟨t, n⟩ :: ls) = t := rfl

namespace Reader

/-! ## Single steps -/

section Steps

variable {α β : Type} {ls ls' : List Lexeme} (f : Token → Reader β)

theorem run_bind_ok {r : Reader α} {a : α} (k : α → Reader β) (h : r.run ls = .ok (a, ls')) :
    (r >>= k).run ls = (k a).run ls' := by
  rw [StateT.run_bind, h]
  rfl

theorem run_pure (a : α) : (pure a : Reader α).run ls = .ok (a, ls) := rfl

theorem run_peek : (peek >>= f).run ls = (f (nextToken ls)).run ls := by
  cases ls <;> rfl

theorem run_peekSecond : (peekSecond >>= f).run ls = (f (nextToken ls.tail)).run ls := by
  match ls with
  | [] => rfl
  | [_] => rfl
  | _ :: _ :: _ => rfl

theorem run_next (t : Token) (n : Nat) : (next >>= f).run (⟨t, n⟩ :: ls) = (f t).run ls := rfl

theorem run_accept_self (t : Token) (n : Nat) (x y : Reader β) :
    (accept t >>= fun b => if b = true then x else y).run (⟨t, n⟩ :: ls) = x.run ls := by
  have h : (accept t).run (⟨t, n⟩ :: ls) = .ok (true, ls) := by
    rw [accept, run_peek, nextToken_cons, if_pos rfl, run_next, run_pure]
  rw [run_bind_ok _ h, if_pos rfl]

theorem run_accept_other {t : Token} (h : nextToken ls ≠ t) (x y : Reader β) :
    (accept t >>= fun b => if b = true then x else y).run ls = y.run ls := by
  have h : (accept t).run ls = .ok (false, ls) := by
    rw [accept, run_peek, if_neg h, run_pure]
  rw [run_bind_ok _ h, if_neg Bool.false_ne_true]

theorem run_expect (t : Token) (n : Nat) (k : Unit → Reader β) :
    (expect t >>= k).run (⟨t, n⟩ :: ls) = (k ()).run ls := by
  have h : (accept t).run (⟨t, n⟩ :: ls) = .ok (true, ls) := by
    rw [accept, run_peek, nextToken_cons, if_pos rfl, run_next, run_pure]
  refine run_bind_ok k ?_
  rw [expect, run_bind_ok _ h]
  rfl

/-- A plain name is read as itself. -/
theorem run_name {s : String} (h : Text.isPlainName s = true) (n : Nat) (k : String → Reader β) :
    (name >>= k).run (⟨.word s, n⟩ :: ls) = (k s).run ls := by
  obtain ⟨-, hword, hnormal⟩ := Text.isPlainName_iff.mp h
  refine run_bind_ok k ?_
  rw [name, run_peek]
  simp only [nextToken_cons, hword, Bool.false_eq_true, if_false]
  rw [run_next, run_pure, hnormal]

end Steps

/-! ## Where an expression ends -/

/-- The tokens that end every expression before them. -/
def closers : List Token :=
  [.sign ",", .sign ")", .sign "]", .sign ":", .sign "=", .newline, .finish]

/-- The next token ends an expression before it. -/
def Closes (ls : List Lexeme) : Prop := nextToken ls ∈ closers

/-- The next token ends an operand before it. -/
def Parts (ls : List Lexeme) : Prop := nextToken ls ∈ .sign "+" :: .sign "-" :: closers

section Ladder

variable {ls ls' : List Lexeme} {e : Expr} {fuel : Nat}

theorem Closes.parts (h : Closes ls) : Parts ls :=
  List.mem_cons_of_mem _ (List.mem_cons_of_mem _ h)

theorem Closes.ne (h : Closes ls) {t : Token} (ht : t ∉ closers) : nextToken ls ≠ t := by
  rintro rfl
  exact ht h

theorem Parts.ne (h : Parts ls) {t : Token} (ht : t ∉ .sign "+" :: .sign "-" :: closers) :
    nextToken ls ≠ t := by
  rintro rfl
  exact ht h

theorem trailers_parts (h : Parts ls) (e : Expr) :
    (trailers (fuel + 1) e).run ls = .ok (e, ls) := by
  rw [trailers, acceptSign, acceptSign, acceptSign, run_accept_other (h.ne (by simp [closers])),
    run_accept_other (h.ne (by simp [closers])), run_accept_other (h.ne (by simp [closers])), run_pure]

theorem find?_binaryOps {op : String} {level : Nat}
    (h : op ∈ [",", ")", "]", ":", "="] ∨ op ∈ ["+", "-"] ∧ level ≠ 4) :
    (binaryOps level).find? (fun p => p.1 == op) = none := by
  simp only [List.mem_cons, List.not_mem_nil, or_false] at h
  unfold binaryOps
  rcases h with (rfl | rfl | rfl | rfl | rfl) | ⟨rfl | rfl, hne⟩ <;> split <;>
    first | exact absurd rfl hne | simp

theorem binaryRest_closes {level : Nat} (h : Closes ls ∨ Parts ls ∧ level ≠ 4) (e : Expr) :
    (binaryRest (fuel + 1) level e).run ls = .ok (e, ls) := by
  have hops : ∀ op, nextToken ls = .sign op → (binaryOps level).find? (fun p => p.1 == op) = none := by
    intro op hop
    refine find?_binaryOps ?_
    rw [Closes, Parts, hop] at h
    simp only [closers, List.mem_cons, List.not_mem_nil, or_false, Token.sign.injEq, reduceCtorEq]
      at h ⊢
    grind
  rw [binaryRest, run_peek]
  split
  · rename_i op hop
    rw [hops op hop]
    rfl
  · rfl

theorem compareOp?_closes (h : Closes ls) : compareOp?.run ls = .ok (none, ls) := by
  rw [compareOp?, run_peek]
  simp only [Closes, closers, List.mem_cons, List.not_mem_nil, or_false] at h
  rcases h with h | h | h | h | h | h | h <;> rw [h] <;> simp <;> rfl

theorem comparisonRest_closes (h : Closes ls) :
    (comparisonRest (fuel + 1)).run ls = .ok ([], ls) := by
  rw [comparisonRest, run_bind_ok _ (compareOp?_closes h)]
  rfl

theorem andRest_closes (h : Closes ls) : (andRest (fuel + 1)).run ls = .ok ([], ls) := by
  rw [andRest, acceptWord, run_accept_other (h.ne (by simp [closers])), run_pure]

theorem orRest_closes (h : Closes ls) : (orRest (fuel + 1)).run ls = .ok ([], ls) := by
  rw [orRest, acceptWord, run_accept_other (h.ne (by simp [closers])), run_pure]

/-- An operand of a level is one of every looser level that no operator of that level follows. -/
theorem binary_descend {top : Nat} (htop : top ≤ 6) (h : (binary fuel top).run ls = .ok (e, ls'))
    (level d : Nat) (hd : level + d = top) (hfuel : 0 < fuel)
    (hrest : ∀ l, level ≤ l → l < top → ∀ k, (binaryRest (k + 1) l e).run ls' = .ok (e, ls')) :
    (binary (fuel + d) level).run ls = .ok (e, ls') := by
  induction d generalizing level with
  | zero =>
    obtain rfl : level = top := hd
    exact h
  | succ d ih =>
    have ih := ih (level + 1) (by omega) fun l hl => hrest l (by omega)
    obtain ⟨k, hk⟩ : ∃ k, fuel + d = k + 1 := ⟨fuel + d - 1, by omega⟩
    rw [← Nat.add_assoc, binary, if_pos (by omega), run_bind_ok _ ih, hk]
    exact hrest level le_rfl (by omega) k

theorem binary_of_factor (h : (factor fuel).run ls = .ok (e, ls')) :
    (binary (fuel + 1) 6).run ls = .ok (e, ls') := by
  rw [binary, if_neg (by omega), h]

/-- An operand of the loosest level is an expression if it closes. -/
theorem expr_of_binary (h : (binary (fuel + 1) 0).run ls = .ok (e, ls'))
    (hopen : nextToken ls ≠ .word "not") (hclose : Closes ls') :
    (expr (fuel + 6)).run ls = .ok (e, ls') := by
  have hcomparison : (comparison (fuel + 2)).run ls = .ok (e, ls') := by
    rw [comparison, run_bind_ok _ h, run_bind_ok _ (comparisonRest_closes hclose), run_pure]
  have hnot : (notTest (fuel + 3)).run ls = .ok (e, ls') := by
    rw [notTest, acceptWord, run_accept_other hopen, hcomparison]
  have hand : (andTest (fuel + 4)).run ls = .ok (e, ls') := by
    rw [andTest, run_bind_ok _ hnot, run_bind_ok _ (andRest_closes hclose), run_pure]
  have hor : (orTest (fuel + 5)).run ls = .ok (e, ls') := by
    rw [orTest, run_bind_ok _ hand, run_bind_ok _ (orRest_closes hclose), run_pure]
  rw [expr, run_bind_ok _ hor, acceptWord, run_accept_other (hclose.ne (by simp [closers])), run_pure]

theorem expr_of_factor (h : (factor fuel).run ls = .ok (e, ls'))
    (hopen : nextToken ls ≠ .word "not") (hclose : Closes ls') :
    (expr (fuel + 12)).run ls = .ok (e, ls') := by
  refine expr_of_binary ?_ hopen hclose
  exact binary_descend le_rfl (binary_of_factor h) 0 6 rfl (by omega)
    fun l _ _ k => binaryRest_closes (.inl hclose) e

/-- A sum of two factors, or a difference. -/
theorem expr_of_sum {op : String} {o : BinaryOp} (hop : (op, o) = ("+", .add) ∨ (op, o) = ("-", .sub))
    {a b : Expr} {m : List Lexeme} {n : Nat}
    (ha : (factor (fuel + 1)).run ls = .ok (a, ⟨.sign op, n⟩ :: m))
    (hb : (factor fuel).run m = .ok (b, ls')) (hopen : nextToken ls ≠ .word "not")
    (hclose : Closes ls') : (expr (fuel + 13)).run ls = .ok (.binary o a b, ls') := by
  have hparts : Parts (⟨.sign op, n⟩ :: m) := by
    rcases hop with h | h <;> obtain ⟨rfl, -⟩ := Prod.mk.inj h <;> simp [Parts]
  have hleft : (binary (fuel + 3) 5).run ls = .ok (a, ⟨.sign op, n⟩ :: m) :=
    binary_descend le_rfl (binary_of_factor ha) 5 1 rfl (by omega)
      fun l hl _ k => binaryRest_closes (.inr ⟨hparts, by omega⟩) a
  have hright : (binary (fuel + 2) 5).run m = .ok (b, ls') :=
    binary_descend le_rfl (binary_of_factor hb) 5 1 rfl (by omega)
      fun l _ _ k => binaryRest_closes (.inl hclose) b
  have hrest : (binaryRest (fuel + 3) 4 a).run (⟨.sign op, n⟩ :: m) = .ok (.binary o a b, ls') := by
    rw [binaryRest, run_peek, nextToken_cons]
    rcases hop with h | h <;> obtain ⟨rfl, rfl⟩ := Prod.mk.inj h <;>
      simp only [binaryOps, List.find?] <;>
      simp only [beq_self_eq_true, String.reduceBEq] <;>
      rw [run_next, run_bind_ok _ hright, binaryRest_closes (.inl hclose)]
  have hsum : (binary (fuel + 4) 4).run ls = .ok (.binary o a b, ls') := by
    rw [binary, if_pos (by omega), run_bind_ok _ hleft, hrest]
  refine expr_of_binary ?_ hopen hclose
  exact binary_descend (by omega) hsum 0 4 rfl (by omega)
    fun l _ _ k => binaryRest_closes (.inl hclose) _

end Ladder

end Reader

/-! ## Kinds of expressions -/

open Reader

/-- A token that an expression opens with, other than a negation or a star. -/
def Opens (t : Token) : Prop := opensExpr t = true ∧ t ∉ [.word "not", .sign "*", .sign "**"]

/-- An operand ends before the next token, or an attribute, a call or a subscript of it follows. -/
def Follows (ls : List Lexeme) : Prop :=
  nextToken ls ∈ [.sign ".", .sign "(", .sign "["] ∨ Parts ls

/-- Tokens that open as an expression does, for a tree that may stand anywhere. -/
structure Stands (ts : List Token) (e : Expr) : Prop where
  opens : ∃ t r, ts = t :: r ∧ Opens t
  /-- It does not look like an argument by name. -/
  calm : ts[1]? ≠ some (.sign "=")
  single : ∀ x, e ≠ .starred x

/-- Tokens are read as the start of an operand, to which attributes, calls and subscripts may be
added. -/
structure PrimaryReads (ts : List Token) (e : Expr) : Prop extends Stands ts e where
  bare : ∀ t ∈ ts.head?, t ∉ [.sign "+", .sign "-", .sign "~", .word "await"]
  reads : ∃ k ≤ ts.length, ∀ n fuel ls, 20 * ts.length ≤ fuel + k + 19 → Follows ls →
    (atom (fuel + k + 1) >>= trailers (fuel + k + 1)).run (atLine n ts ++ ls) =
      (trailers (fuel + 1) e).run ls

/-- Tokens are read as an operand. -/
structure FactorReads (ts : List Token) (e : Expr) : Prop extends Stands ts e where
  reads : ∀ n fuel ls, 20 * ts.length ≤ fuel + 15 → Parts ls →
    (factor fuel).run (atLine n ts ++ ls) = .ok (e, ls)

/-- Tokens are read as an expression. -/
structure ExprReads (ts : List Token) (e : Expr) : Prop extends Stands ts e where
  reads : ∀ n fuel ls, 20 * ts.length ≤ fuel → Closes ls →
    (expr fuel).run (atLine n ts ++ ls) = .ok (e, ls)

section Kinds

variable {ts : List Token} {e : Expr}

theorem Stands.nextToken_ne (h : Stands ts e) {t : Token} (ht : ¬ Opens t) (n : Nat)
    (ls : List Lexeme) : nextToken (atLine n ts ++ ls) ≠ t := by
  obtain ⟨u, r, rfl, hu⟩ := h.opens
  rintro rfl
  exact ht hu

theorem Stands.length_pos (h : Stands ts e) : 0 < ts.length := by
  obtain ⟨t, r, rfl, -⟩ := h.opens
  simp

/-- Behind a token and with others after it, the tokens assign nothing. -/
theorem Stands.head?_append_ne (h : Stands ts e) (us : List Token) :
    (ts ++ us)[0]? ≠ some (.sign "=") := by
  obtain ⟨t, r, rfl, ht⟩ := h.opens
  rintro heq
  obtain rfl := Option.some.inj heq
  simp [Opens, opensExpr] at ht

theorem Stands.calm_append (h : Stands ts e) {us : List Token} (hus : us.head? ≠ some (.sign "=")) :
    (ts ++ us)[1]? ≠ some (.sign "=") := by
  obtain ⟨t, r, rfl, -⟩ := h.opens
  cases r with
  | nil => rwa [List.head?_eq_getElem?] at hus
  | cons u r => exact h.calm

theorem PrimaryReads.nextToken_ne (h : PrimaryReads ts e) {t : Token}
    (ht : t ∈ [.sign "+", .sign "-", .sign "~", .word "await"]) (n : Nat) (ls : List Lexeme) :
    nextToken (atLine n ts ++ ls) ≠ t := by
  obtain ⟨u, r, rfl, -⟩ := h.opens
  rintro rfl
  exact h.bare _ rfl ht

theorem PrimaryReads.factorReads (h : PrimaryReads ts e) : FactorReads ts e := by
  refine ⟨h.toStands, fun n fuel ls hfuel hparts => ?_⟩
  obtain ⟨k, hk, hreads⟩ := h.reads
  have hpos := h.length_pos
  have hne {t} (ht) := h.nextToken_ne (t := t) ht n ls
  obtain ⟨f, rfl⟩ : ∃ f, fuel = f + k + 3 := ⟨fuel - k - 3, by omega⟩
  have hawaited : (awaited (f + k + 2)).run (atLine n ts ++ ls) = .ok (e, ls) := by
    rw [awaited, acceptWord, run_accept_other (hne (by simp)), hreads n f ls (by omega) (.inr hparts),
      trailers_parts hparts]
  rw [factor, acceptSign, acceptSign, acceptSign, run_accept_other (hne (by simp)),
    run_accept_other (hne (by simp)), run_accept_other (hne (by simp)), run_bind_ok _ hawaited,
    acceptSign, run_accept_other (hparts.ne (by simp [closers])), run_pure]

theorem FactorReads.exprReads (h : FactorReads ts e) : ExprReads ts e := by
  refine ⟨h.toStands, fun n fuel ls hfuel hclose => ?_⟩
  have hpos := h.length_pos
  obtain ⟨f, rfl⟩ : ∃ f, fuel = f + 12 := ⟨fuel - 12, by omega⟩
  exact expr_of_factor (h.reads n f ls (by omega) hclose.parts)
    (h.nextToken_ne (by simp [Opens]) n ls) hclose

/-! ## Operands -/

theorem primaryReads_name {s : String} (h : Text.isPlainName s = true) :
    PrimaryReads [.word s] (.name s) where
  opens := by
    refine ⟨_, _, rfl, by simp [opensExpr, Text.isKeyword_of_isPlainName h], ?_⟩
    have : s ≠ "not" := by rintro rfl; cases h
    simpa using this
  calm := by simp
  single := by simp
  bare := by
    have : s ≠ "await" := by rintro rfl; cases h
    simpa using this
  reads := by
    have hnone : s ≠ "None" := by rintro rfl; cases h
    have htrue : s ≠ "True" := by rintro rfl; cases h
    have hfalse : s ≠ "False" := by rintro rfl; cases h
    refine ⟨0, by simp, fun n fuel ls _ _ => run_bind_ok _ ?_⟩
    rw [atom, run_peek]
    simp only [atLine_cons, List.cons_append, nextToken_cons]
    exact run_name h n _

/-- The token that a literal is written as. -/
def Constant.token : Constant → Token
  | .none => .word "None"
  | .true => .word "True"
  | .false => .word "False"
  | .ellipsis => .sign "..."
  | .str s => .text s Bool.false
  | .marked s => .text s Bool.true
  | .bytes bs => .bytes bs
  | c => .number c

theorem Follows.ne {ls : List Lexeme} (h : Follows ls) (s : String) (b : Bool) (bs : List UInt8) :
    nextToken ls ≠ .text s b ∧ nextToken ls ≠ .bytes bs := by
  constructor <;> intro ht <;> simp [Follows, Parts, closers, ht] at h

theorem joinTexts_follows {ls : List Lexeme} (h : Follows ls) (fuel : Nat) (s : String) :
    (joinTexts (fuel + 1) s).run ls = .ok (s, ls) := by
  rw [joinTexts, run_peek]
  split
  · exact absurd ‹_› (h.ne _ _ []).1
  · exact absurd ‹_› (h.ne "" false _).2
  · rfl

theorem joinBytes_follows {ls : List Lexeme} (h : Follows ls) (fuel : Nat) (bs : List UInt8) :
    (joinBytes (fuel + 1) bs).run ls = .ok (bs, ls) := by
  rw [joinBytes, run_peek]
  split
  · exact absurd ‹_› (h.ne "" false _).2
  · exact absurd ‹_› (h.ne _ _ []).1
  · rfl

/-- **A literal is read as itself.** -/
theorem primaryReads_const (c : Constant) : PrimaryReads [c.token] (.const c) where
  opens := by
    refine ⟨_, _, rfl, ?_⟩
    cases c <;> simp [Constant.token, Opens, opensExpr]
  calm := by cases c <;> simp [Constant.token]
  single := by simp
  bare := by cases c <;> simp [Constant.token]
  reads := by
    refine ⟨0, by simp, fun n fuel ls hfuel hls => run_bind_ok _ ?_⟩
    obtain ⟨f, rfl⟩ : ∃ f, fuel = f + 1 := ⟨fuel - 1, by simp at hfuel; omega⟩
    rw [atom, run_peek]
    cases c with
    | str s | marked s =>
      simp only [Constant.token, atLine_cons, List.cons_append, nextToken_cons]
      rw [run_next, atLine_nil, List.nil_append, run_bind_ok _ (joinTexts_follows hls f s)]
      rfl
    | bytes bs =>
      simp only [Constant.token, atLine_cons, List.cons_append, nextToken_cons]
      rw [run_next, atLine_nil, List.nil_append, run_bind_ok _ (joinBytes_follows hls f bs)]
      rfl
    | _ => rfl

/-! ## Attributes, calls and subscripts -/

/-- What may be added to an operand gives an operand. -/
theorem PrimaryReads.extend (h : PrimaryReads ts e) {us : List Token} {e' : Expr}
    (hsingle : ∀ x, e' ≠ .starred x)
    (hus : us.head? ∈ [some (.sign "."), some (.sign "("), some (.sign "[")])
    (hstep : ∀ n fuel ls, 20 * us.length ≤ fuel + 1 → Follows ls →
      (trailers (fuel + 2) e).run (atLine n us ++ ls) = (trailers (fuel + 1) e').run ls) :
    PrimaryReads (ts ++ us) e' := by
  obtain ⟨k, hk, hreads⟩ := h.reads
  have hpos := h.length_pos
  have hne : us ≠ [] := by rintro rfl; simp at hus
  have hcalm : us.head? ≠ some (.sign "=") := by
    rintro heq
    simp [heq] at hus
  refine ⟨⟨?_, h.calm_append hcalm, hsingle⟩, ?_, k + 1, ?_, fun n fuel ls hfuel hls => ?_⟩
  · obtain ⟨t, r, rfl, ht⟩ := h.opens
    exact ⟨t, r ++ us, rfl, ht⟩
  · obtain ⟨t, r, rfl, -⟩ := h.opens
    exact h.bare
  · have := List.length_pos_of_ne_nil hne
    rw [List.length_append]
    omega
  · have hfollows : Follows (atLine n us ++ ls) := by
      obtain ⟨u, us, rfl⟩ := List.exists_cons_of_ne_nil hne
      exact .inl (by simpa using hus)
    rw [List.length_append] at hfuel
    rw [show fuel + (k + 1) + 1 = fuel + 1 + k + 1 by omega, atLine_append, List.append_assoc,
      hreads n (fuel + 1) _ (by omega) hfollows, hstep n fuel ls (by omega) hls]

/-- **An attribute of an operand.** -/
theorem PrimaryReads.attribute (h : PrimaryReads ts e) {s : String} (hs : Text.isPlainName s = true) :
    PrimaryReads (ts ++ [.sign ".", .word s]) (.attribute e s) := by
  refine h.extend (by simp) (by simp) fun n fuel ls _ _ => ?_
  simp only [atLine_cons, atLine_nil, List.cons_append, List.nil_append]
  rw [trailers, acceptSign, run_accept_self, run_name hs]

/-- **A subscript of an operand.** -/
theorem PrimaryReads.subscript (h : PrimaryReads ts e) {is : List Token} {i : Expr}
    (hindex : ∀ n fuel ls, 20 * is.length + 20 ≤ fuel → nextToken ls = .sign "]" →
      (index fuel).run (atLine n is ++ ls) = .ok (i, ls)) :
    PrimaryReads (ts ++ .sign "[" :: (is ++ [.sign "]"])) (.subscript e i) := by
  refine h.extend (by simp) (by simp) fun n fuel ls hfuel _ => ?_
  simp only [List.length_cons, List.length_append, List.length_nil] at hfuel
  simp only [atLine_cons, atLine_append, atLine_nil, List.cons_append, List.nil_append,
    List.append_assoc]
  rw [trailers, acceptSign, acceptSign, acceptSign, run_accept_other (by simp),
    run_accept_other (by simp), run_accept_self,
    run_bind_ok _ (hindex n (fuel + 1) _ (by omega) rfl), expectSign, run_expect]

end Kinds

/-! ## Arguments -/

section Arguments

variable {ts : List Token} {tss : List (List Token)} {e : Expr} {acc acc' acc'' : ArgsRead}

/-- Tokens are read as one more argument. -/
structure ArgReads (ts : List Token) (acc acc' : ArgsRead) : Prop where
  opens : ∃ t r, ts = t :: r ∧ t ≠ .sign ")"
  reads : ∀ n fuel ls, 20 * ts.length ≤ fuel → nextToken ls ∈ [.sign ",", .sign ")"] →
    (arg (fuel + 1) acc).run (atLine n ts ++ ls) = .ok (acc', ls)

theorem closes_of_argument {ls : List Lexeme} (h : nextToken ls ∈ [.sign ",", .sign ")"]) :
    Closes ls := by
  simp only [List.mem_cons, List.not_mem_nil, or_false] at h
  rcases h with h | h <;> simp [Closes, closers, h]

/-- The second token of an argument by position assigns nothing. -/
theorem Stands.second_ne (h : Stands ts e) (n : Nat) {ls : List Lexeme}
    (hls : nextToken ls ≠ .sign "=") :
    nextToken (atLine n ts ++ ls).tail ≠ .sign "=" := by
  obtain ⟨t, r, rfl, -⟩ := h.opens
  cases r with
  | nil => exact hls
  | cons u r =>
    rintro heq
    exact h.calm (by rw [show u = .sign "=" from heq]; rfl)

/-- **An argument by position.** -/
theorem ExprReads.argReads (h : ExprReads ts e) (hacc : acc.keywords = []) :
    ArgReads ts acc { acc with args := e :: acc.args } := by
  refine ⟨?_, fun n fuel ls hfuel hls => ?_⟩
  · obtain ⟨t, r, rfl, ht⟩ := h.opens
    exact ⟨t, r, rfl, by rintro rfl; simp [Opens, opensExpr] at ht⟩
  · have hexpr := h.reads n fuel ls hfuel (closes_of_argument hls)
    have hsecond := h.second_ne n (show nextToken ls ≠ .sign "=" by rintro heq; simp [heq] at hls)
    rw [arg, acceptSign, acceptSign, run_accept_other (h.nextToken_ne (by simp [Opens]) n ls),
      run_accept_other (h.nextToken_ne (by simp [Opens]) n ls), run_peek]
    simp only [run_peekSecond, decide_eq_false hsecond, Bool.and_false, Bool.false_eq_true, if_false]
    rw [run_bind_ok _ hexpr]
    simp only [hacc, List.isEmpty_nil, Bool.not_true, Bool.false_eq_true, if_false]
    rfl

/-- **Further arguments by position.** -/
theorem ExprReads.starred_argReads (h : ExprReads ts e) (hacc : acc.keywords = []) :
    ArgReads (.sign "*" :: ts) acc { acc with args := .starred e :: acc.args } := by
  refine ⟨⟨_, _, rfl, by simp⟩, fun n fuel ls hfuel hls => ?_⟩
  have hexpr := h.reads n fuel ls (by rw [List.length_cons] at hfuel; omega) (closes_of_argument hls)
  rw [arg, acceptSign, acceptSign, atLine_cons, List.cons_append, run_accept_other (by simp),
    run_accept_self, run_bind_ok _ hexpr]
  simp only [hacc, List.any_nil, Bool.false_eq_true, if_false]
  rfl

/-- **An argument by name.** -/
theorem ExprReads.named_argReads (h : ExprReads ts e) {s : String} (hs : Text.isPlainName s = true) :
    ArgReads (.word s :: .sign "=" :: ts) acc
      { acc with keywords := (some s, e) :: acc.keywords } := by
  refine ⟨⟨_, _, rfl, by simp⟩, fun n fuel ls hfuel hls => ?_⟩
  have hexpr := h.reads n fuel ls (by simp only [List.length_cons] at hfuel; omega)
    (closes_of_argument hls)
  rw [arg, acceptSign, acceptSign, atLine_cons, atLine_cons, List.cons_append, List.cons_append,
    run_accept_other (by simp), run_accept_other (by simp), run_peek]
  simp only [run_peekSecond, nextToken_cons, List.tail_cons, Text.isKeyword_of_isPlainName hs,
    Bool.not_false, decide_true, Bool.and_self, if_true]
  rw [run_name hs, expectSign, run_expect, run_bind_ok _ hexpr, run_pure]

/-- **Further arguments by name.** -/
theorem ExprReads.doubleStarred_argReads (h : ExprReads ts e) :
    ArgReads (.sign "**" :: ts) acc { acc with keywords := (none, e) :: acc.keywords } := by
  refine ⟨⟨_, _, rfl, by simp⟩, fun n fuel ls hfuel hls => ?_⟩
  have hexpr := h.reads n fuel ls (by rw [List.length_cons] at hfuel; omega) (closes_of_argument hls)
  rw [arg, acceptSign, atLine_cons, List.cons_append, run_accept_self, run_bind_ok _ hexpr, run_pure]

/-- Tokens are read as arguments one after another. -/
inductive ArgsRead.Reads : List (List Token) → ArgsRead → ArgsRead → Prop
  | nil (acc : ArgsRead) : Reads [] acc acc
  | cons {ts : List Token} {tss : List (List Token)} {acc acc' acc'' : ArgsRead} :
    ArgReads ts acc acc' → Reads tss acc' acc'' → Reads (ts :: tss) acc acc''

theorem ArgReads.nextToken_ne (h : ArgReads ts acc acc') (n : Nat) (ls : List Lexeme) :
    nextToken (atLine n ts ++ ls) ≠ .sign ")" := by
  obtain ⟨t, r, rfl, ht⟩ := h.opens
  exact ht

theorem ArgsRead.Reads.run (h : ArgsRead.Reads tss acc acc') (n fuel : Nat) (ls : List Lexeme)
    (hfuel : 20 * ([Token.sign ","].intercalate tss).length + 2 ≤ fuel) :
    (args fuel acc).run (atLine n ([.sign ","].intercalate tss) ++ ⟨.sign ")", n⟩ :: ls) =
      .ok (acc', ls) := by
  induction h generalizing fuel with
  | nil acc =>
    obtain ⟨f, rfl⟩ : ∃ f, fuel = f + 1 := ⟨fuel - 1, by omega⟩
    rw [List.intercalate_nil, atLine_nil, List.nil_append, args, acceptSign, run_accept_self, run_pure]
  | @cons ts tss acc acc' acc'' harg htail ih =>
    obtain ⟨f, rfl⟩ : ∃ f, fuel = f + 2 := ⟨fuel - 2, by omega⟩
    match tss, htail, ih with
    | [], htail, _ =>
      cases htail
      rw [List.intercalate_singleton] at hfuel ⊢
      rw [args, acceptSign, run_accept_other (harg.nextToken_ne n _),
        run_bind_ok _ (harg.reads n f _ (by omega) (by simp)), acceptSign,
        run_accept_other (by simp), expectSign, run_expect, run_pure]
    | us :: tss, htail, ih =>
      rw [List.intercalate_cons_cons, List.append_assoc] at hfuel ⊢
      simp only [List.length_append, List.length_cons, List.length_nil] at hfuel
      rw [atLine_append, atLine_append, atLine_cons, atLine_nil, List.append_assoc, List.append_assoc,
        List.singleton_append, args, acceptSign, run_accept_other (harg.nextToken_ne n _),
        run_bind_ok _ (harg.reads n f _ (by omega) (by simp)), acceptSign, run_accept_self]
      exact ih (f + 1) (by omega)

/-- **A call of an operand.** -/
theorem PrimaryReads.call {f : Expr} (h : PrimaryReads ts f)
    (hargs : ArgsRead.Reads tss {} acc) :
    PrimaryReads (ts ++ .sign "(" :: ([.sign ","].intercalate tss ++ [.sign ")"]))
      (.call f acc.args.reverse acc.keywords.reverse) := by
  refine h.extend (by simp) (by simp) fun n fuel ls hfuel _ => ?_
  simp only [List.length_cons, List.length_append, List.length_nil] at hfuel
  simp only [atLine_cons, atLine_append, atLine_nil, List.cons_append, List.nil_append,
    List.append_assoc]
  rw [trailers, acceptSign, acceptSign, run_accept_other (by simp), run_accept_self,
    run_bind_ok _ (hargs.run n (fuel + 1) ls (by omega))]

end Arguments

/-! ## Lists and groups -/

section Groups

variable {ts : List Token} {tss : List (List Token)} {e a b : Expr} {es : List Expr}

theorem ExprReads.star_run (h : ExprReads ts e) (n fuel : Nat) (ls : List Lexeme)
    (hfuel : 20 * ts.length ≤ fuel) (hls : Closes ls) :
    (starExpr (fuel + 1)).run (atLine n ts ++ ls) = .ok (e, ls) := by
  rw [starExpr, acceptSign, run_accept_other (h.nextToken_ne (by simp [Opens]) n ls),
    h.reads n fuel ls hfuel hls]

theorem ExprReads.slice_run (h : ExprReads ts e) (n fuel : Nat) (ls : List Lexeme)
    (hfuel : 20 * ts.length ≤ fuel) (hls : nextToken ls ∈ [.sign ",", .sign "]"]) :
    (slicePart (fuel + 2)).run (atLine n ts ++ ls) = .ok (e, ls) := by
  have hclose : Closes ls := by
    simp only [List.mem_cons, List.not_mem_nil, or_false] at hls
    rcases hls with hls | hls <;> simp [Closes, closers, hls]
  have hopen : opensExpr (nextToken (atLine n ts ++ ls)) = true := by
    obtain ⟨t, r, rfl, ht⟩ := h.opens
    exact ht.1
  have hbound : (sliceBound (fuel + 1)).run (atLine n ts ++ ls) = .ok (some e, ls) := by
    rw [sliceBound, run_peek, if_pos hopen, run_bind_ok _ (h.reads n fuel ls hfuel hclose), run_pure]
  have hcolon : nextToken ls ≠ .sign ":" := by
    rintro heq
    simp [heq] at hls
  rw [slicePart, acceptSign, run_accept_other (h.nextToken_ne (by simp [Opens]) n ls),
    run_bind_ok _ hbound, acceptSign, run_accept_other hcolon, run_pure]

/-- One expression between the brackets of a subscript. -/
theorem ExprReads.index_run (h : ExprReads ts e) (n fuel : Nat) (ls : List Lexeme)
    (hfuel : 20 * ts.length + 20 ≤ fuel) (hls : nextToken ls = .sign "]") :
    (index fuel).run (atLine n ts ++ ls) = .ok (e, ls) := by
  obtain ⟨f, rfl⟩ : ∃ f, fuel = f + 3 := ⟨fuel - 3, by omega⟩
  rw [index, run_bind_ok _ (h.slice_run n f ls (by omega) (by simp [hls])), run_peek,
    if_neg (by simp [hls])]
  split
  · exact absurd rfl (h.single _)
  · rfl

/-- Tokens of further expressions, each behind a comma. -/
def commaTokens (tss : List (List Token)) : List Token := tss.flatMap (.sign "," :: ·)

theorem intercalate_cons_eq (ts : List Token) (tss : List (List Token)) :
    [Token.sign ","].intercalate (ts :: tss) = ts ++ commaTokens tss := by
  induction tss generalizing ts with
  | nil => simp [commaTokens]
  | cons us tss ih =>
    rw [List.intercalate_cons_cons, ih]
    simp [commaTokens]

theorem indexRest_run (h : List.Forall₂ ExprReads tss es) (n fuel : Nat) (ls : List Lexeme)
    (hfuel : 20 * (commaTokens tss).length + 1 ≤ fuel) (hls : nextToken ls = .sign "]") :
    (indexRest fuel).run (atLine n (commaTokens tss) ++ ls) = .ok (es, ls) := by
  induction h generalizing fuel with
  | nil =>
    obtain ⟨f, rfl⟩ : ∃ f, fuel = f + 1 := ⟨fuel - 1, by omega⟩
    rw [indexRest, acceptSign]
    exact run_accept_other (by simp [commaTokens, hls]) _ _
  | @cons ts e tss es h htail ih =>
    obtain ⟨f, rfl⟩ : ∃ f, fuel = f + 3 := ⟨fuel - 3, by simp [commaTokens] at hfuel; omega⟩
    have hlen : (commaTokens (ts :: tss)).length = ts.length + 1 + (commaTokens tss).length := by
      simp [commaTokens]
      omega
    have hnext : nextToken (atLine n (commaTokens tss) ++ ls) ∈ [.sign ",", .sign "]"] := by
      cases tss <;> simp [commaTokens, hls]
    have hbracket := h.nextToken_ne (t := .sign "]") (by simp [Opens, opensExpr]) n
      (atLine n (commaTokens tss) ++ ls)
    have hcommas : commaTokens (ts :: tss) = .sign "," :: (ts ++ commaTokens tss) := rfl
    rw [hcommas, atLine_cons, atLine_append, List.cons_append, List.append_assoc, indexRest, acceptSign,
      run_accept_self, run_peek, if_neg hbracket, run_bind_ok _ (h.slice_run n f _ (by omega) hnext),
      run_bind_ok _ (ih (f + 2) (by omega)), run_pure]

/-- Several expressions between the brackets of a subscript. -/
theorem index_tuple_run {us : List Token} {uss : List (List Token)} {d : Expr}
    (h : ExprReads ts e) (h' : List.Forall₂ ExprReads (us :: uss) (d :: es)) (n fuel : Nat)
    (ls : List Lexeme) (hfuel : 20 * (ts ++ commaTokens (us :: uss)).length + 20 ≤ fuel)
    (hls : nextToken ls = .sign "]") :
    (index fuel).run (atLine n (ts ++ commaTokens (us :: uss)) ++ ls) =
      .ok (.tuple (e :: d :: es), ls) := by
  obtain ⟨f, rfl⟩ : ∃ f, fuel = f + 3 := ⟨fuel - 3, by omega⟩
  rw [List.length_append] at hfuel
  have hcomma : nextToken (atLine n (commaTokens (us :: uss)) ++ ls) = .sign "," := rfl
  rw [index, atLine_append, List.append_assoc,
    run_bind_ok _ (h.slice_run n f _ (by omega) (by simp [hcomma])), run_peek, if_pos hcomma,
    run_bind_ok _ (indexRest_run h' n (f + 2) ls (by omega) hls), run_pure]

theorem exprRest_run (h : List.Forall₂ ExprReads tss es) (n fuel : Nat) (ls : List Lexeme)
    (hfuel : 20 * (commaTokens tss).length + 1 ≤ fuel) (hls : Closes ls)
    (hcomma : nextToken ls ≠ .sign ",") :
    (exprRest fuel).run (atLine n (commaTokens tss) ++ ls) = .ok (es, ls) := by
  induction h generalizing fuel with
  | nil =>
    obtain ⟨f, rfl⟩ : ∃ f, fuel = f + 1 := ⟨fuel - 1, by omega⟩
    rw [exprRest, acceptSign]
    exact run_accept_other hcomma _ _
  | @cons ts e tss es h htail ih =>
    obtain ⟨f, rfl⟩ : ∃ f, fuel = f + 2 := ⟨fuel - 2, by simp [commaTokens] at hfuel; omega⟩
    have hlen : (commaTokens (ts :: tss)).length = ts.length + 1 + (commaTokens tss).length := by
      simp [commaTokens]
      omega
    have hnext : Closes (atLine n (commaTokens tss) ++ ls) := by
      cases tss with
      | nil => exact hls
      | cons us tss => simp [commaTokens, Closes, closers]
    have hopen : opensExpr (nextToken (atLine n ts ++ (atLine n (commaTokens tss) ++ ls))) = true := by
      obtain ⟨t, r, rfl, ht⟩ := h.opens
      exact ht.1
    have hcommas : commaTokens (ts :: tss) = .sign "," :: (ts ++ commaTokens tss) := rfl
    rw [hcommas, atLine_cons, atLine_append, List.cons_append, List.append_assoc, exprRest, acceptSign,
      run_accept_self, run_peek, if_pos hopen, run_bind_ok _ (h.star_run n f _ (by omega) hnext),
      run_bind_ok _ (ih (f + 1) (by omega)), run_pure]

/-- **A list.** -/
theorem primaryReads_list (h : List.Forall₂ ExprReads tss es) :
    PrimaryReads (.sign "[" :: ([.sign ","].intercalate tss ++ [.sign "]"])) (.list es) where
  opens := ⟨_, _, rfl, by simp [Opens, opensExpr]⟩
  calm := by
    cases h with
    | nil => simp
    | cons h _ =>
      rw [intercalate_cons_eq, List.append_assoc]
      exact h.head?_append_ne _
  single := by simp
  bare := by simp
  reads := by
    refine ⟨0, by simp, fun n fuel ls hfuel _ => run_bind_ok _ ?_⟩
    obtain ⟨f, rfl⟩ : ∃ f, fuel = f + 1 := ⟨fuel - 1, by simp at hfuel; omega⟩
    simp only [List.length_cons, List.length_append, List.length_nil] at hfuel
    rw [atom, run_peek]
    simp only [atLine_cons, atLine_append, atLine_nil, List.cons_append, List.nil_append,
      List.append_assoc, nextToken_cons]
    cases h with
    | nil =>
      rw [run_next, List.intercalate_nil, atLine_nil, List.nil_append, acceptSign, run_accept_self,
        run_pure]
    | @cons ts e tss es h htail =>
      rw [intercalate_cons_eq, List.length_append] at hfuel
      have hclose : Closes (⟨.sign "]", n⟩ :: ls) := by simp [Closes, closers]
      have hnext : Closes (atLine n (commaTokens tss) ++ ⟨.sign "]", n⟩ :: ls) := by
        cases tss with
        | nil => exact hclose
        | cons us tss => simp [commaTokens, Closes, closers]
      rw [run_next, intercalate_cons_eq, atLine_append, List.append_assoc, acceptSign,
        run_accept_other (h.nextToken_ne (by simp [Opens, opensExpr]) n _),
        run_bind_ok _ (h.star_run n f _ (by omega) hnext),
        run_bind_ok _ (exprRest_run htail n (f + 1) _ (by omega) hclose (by simp)), expectSign,
        run_expect, run_pure]

/-- **An expression in parentheses.** -/
theorem ExprReads.paren (h : ExprReads ts e) :
    PrimaryReads (.sign "(" :: (ts ++ [.sign ")"])) e where
  opens := ⟨_, _, rfl, by simp [Opens, opensExpr]⟩
  calm := h.head?_append_ne _
  single := h.single
  bare := by simp
  reads := by
    refine ⟨0, by simp, fun n fuel ls hfuel _ => run_bind_ok _ ?_⟩
    simp only [List.length_cons, List.length_append, List.length_nil] at hfuel
    obtain ⟨f, rfl⟩ : ∃ f, fuel = f + 2 := ⟨fuel - 2, by omega⟩
    have hclose : Closes (⟨.sign ")", n⟩ :: ls) := by simp [Closes, closers]
    have hlist : (exprList (f + 2)).run (atLine n ts ++ ⟨.sign ")", n⟩ :: ls) =
        .ok (e, ⟨.sign ")", n⟩ :: ls) := by
      rw [exprList, run_bind_ok _ (h.star_run n f _ (by omega) hclose), run_peek, if_neg (by simp),
        run_pure]
    rw [atom, run_peek]
    simp only [atLine_cons, atLine_append, atLine_nil, List.cons_append, List.nil_append,
      List.append_assoc, nextToken_cons]
    rw [run_next, acceptSign, run_accept_other (h.nextToken_ne (by simp [Opens, opensExpr]) n _),
      run_bind_ok _ hlist, expectSign, run_expect]
    split
    · exact absurd rfl (h.single _)
    · rfl

/-- **A negated operand.** -/
theorem FactorReads.minus (h : FactorReads ts e) :
    FactorReads (.sign "-" :: ts) (.unary .minus e) where
  opens := ⟨_, _, rfl, by simp [Opens, opensExpr]⟩
  calm := by simpa using h.head?_append_ne []
  single := by simp
  reads n fuel ls hfuel hls := by
    rw [List.length_cons] at hfuel
    obtain ⟨f, rfl⟩ : ∃ f, fuel = f + 1 := ⟨fuel - 1, by have := h.length_pos; omega⟩
    rw [factor, acceptSign, acceptSign, atLine_cons, List.cons_append, run_accept_other (by simp),
      run_accept_self, run_bind_ok _ (h.reads n f ls (by omega) hls), run_pure]

/-- **An operand that is waited for.** -/
theorem PrimaryReads.await (h : PrimaryReads ts e) : FactorReads (.word "await" :: ts) (.await e) where
  opens := ⟨_, _, rfl, by simp [Opens, opensExpr]⟩
  calm := by simpa using h.head?_append_ne []
  single := by simp
  reads n fuel ls hfuel hls := by
    rw [List.length_cons] at hfuel
    obtain ⟨k, hk, hreads⟩ := h.reads
    obtain ⟨f, rfl⟩ : ∃ f, fuel = f + k + 3 := ⟨fuel - k - 3, by have := h.length_pos; omega⟩
    have hprimary : (atom (f + k + 1) >>= trailers (f + k + 1)).run (atLine n ts ++ ls) = .ok (e, ls) := by
      rw [hreads n f ls (by omega) (.inr hls), trailers_parts hls]
    have hawaited : (awaited (f + k + 2)).run (atLine n (.word "await" :: ts) ++ ls) = .ok (.await e, ls) := by
      rw [atLine_cons, List.cons_append, awaited, acceptWord, run_accept_self, ← bind_assoc,
        run_bind_ok _ hprimary, run_pure]
    rw [factor, acceptSign, acceptSign, acceptSign, run_accept_other (by simp), run_accept_other (by simp),
      run_accept_other (by simp), run_bind_ok _ hawaited, acceptSign,
      run_accept_other (hls.ne (by simp [closers])), run_pure]

/-- **A sum or a difference of two operands.** -/
theorem FactorReads.sum {us : List Token} {op : String} {o : BinaryOp} (ha : FactorReads ts a)
    (hb : FactorReads us b) (hop : (op, o) = ("+", .add) ∨ (op, o) = ("-", .sub)) :
    ExprReads (ts ++ .sign op :: us) (.binary o a b) where
  opens := by
    obtain ⟨t, r, rfl, ht⟩ := ha.opens
    exact ⟨t, _, rfl, ht⟩
  calm := by
    refine ha.calm_append ?_
    rcases hop with h | h <;> obtain ⟨rfl, -⟩ := Prod.mk.inj h <;> simp
  single := by simp
  reads n fuel ls hfuel hls := by
    rw [List.length_append, List.length_cons] at hfuel
    have := ha.length_pos
    obtain ⟨f, rfl⟩ : ∃ f, fuel = f + 13 := ⟨fuel - 13, by omega⟩
    have hparts : Parts (⟨.sign op, n⟩ :: (atLine n us ++ ls)) := by
      rcases hop with h | h <;> obtain ⟨rfl, -⟩ := Prod.mk.inj h <;> simp [Parts]
    rw [atLine_append, List.append_assoc, atLine_cons, List.cons_append]
    exact expr_of_sum hop (ha.reads n (f + 1) _ (by omega) hparts)
      (hb.reads n f ls (by omega) hls.parts) (ha.nextToken_ne (by simp [Opens]) n _) hls

end Groups

/-! ## A whole source -/

theorem runReader_ok {α : Type} {r : Nat → Reader α} {x : Lexed} {a : α} (hfault : x.fault = none)
    (rest : List Lexeme) (h : (r (30 * (x.lexemes.length + 2))).run x.lexemes = .ok (a, rest)) :
    runReader r x = .ok a := by
  have hrun : (r (30 * (x.lexemes.length + 2))).run' x.lexemes = .ok a := by
    change (fun p => p.1) <$> (r (30 * (x.lexemes.length + 2))).run x.lexemes = .ok a
    rw [h]
    rfl
  rw [runReader, hrun, hfault]

/-- **A source that is one expression is read as it.** -/
theorem readExpr_of_lexes {s : String} {ok : List Char → Prop} {ts : List Token} {e : Expr}
    (hlex : Lexes ok s.toList ts) (hok : ok [])
    (hopen : ∃ c r, s.toList = c :: r ∧ isLayout c = false) (h : ExprReads ts e) :
    readExpr s = .ok e := by
  have hlen : (atLine 1 ts ++ [⟨.newline, 1⟩, ⟨.finish, 1⟩] : List Lexeme).length =
      ts.length + 2 := by
    simp [atLine]
  obtain ⟨f, hf⟩ : ∃ f, 30 * (ts.length + 2 + 2) = f + 2 := ⟨30 * (ts.length + 2 + 2) - 2, by omega⟩
  have hlist : (exprList (f + 2)).run (atLine 1 ts ++ [⟨.newline, 1⟩, ⟨.finish, 1⟩]) =
      .ok (e, [⟨.newline, 1⟩, ⟨.finish, 1⟩]) := by
    rw [exprList, run_bind_ok _ (h.star_run 1 f _ (by omega) (by simp [Closes, closers])), run_peek,
      if_neg (by simp), run_pure]
  rw [readExpr, lex_of_lexes hlex hok hopen]
  refine runReader_ok rfl [] ?_
  rw [← atLine, hlen, hf, soleExpr, run_bind_ok _ hlist]
  rfl

end Facade.Syntax
