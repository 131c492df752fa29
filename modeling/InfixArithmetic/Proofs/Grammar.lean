import InfixArithmetic.Expr.Basic
import InfixArithmetic.Proofs.Chain
import InfixArithmetic.Proofs.Moving

/-!
# The grammar of expressions

Which expression a list of tokens stands for, as a grammar of three levels:

- a power is a literal, or a literal, `**` and a power;
- a product is a power, or a product, `*` or `/`, and a power;
- a sum is a product, or a sum, `+` or `-`, and a product.

Products and sums are given in the form that groups to the left: the last operand of
a row of factors or terms is the right operand of the topmost operation.

Main results:

- `Grammar.Derives`: the expressions that the grammar assigns to the tokens.
- `Grammar.Derives.alternates`: a derivation uses every token once and in order.
- `Grammar.Alternates.exists_derives`: whenever numbers and operators alternate, some
  expression is derived.
- `Grammar.Derives.exists_infix_of_mem_nodes`: every part of a derived expression is
  derived from a stretch of the tokens.
- `Grammar.Derives.exists_operands`: the operands of a derived operation are derived on the
  two sides of its operator.
- `Grammar.Derives.mapSpans`: moved tokens derive the moved expression.
-/

namespace InfixArithmetic

namespace Expr

/-- Where the first literal of an expression stands. -/
def firstLeaf : Expr → Span
  | literal _ s => s
  | binary _ _ left _ => left.firstLeaf

/-- Where the last literal of an expression stands. -/
def lastLeaf : Expr → Span
  | literal _ s => s
  | binary _ _ _ right => right.lastLeaf

/-- An operation that reaches from its first literal to its last one. -/
def spanning (op : Operator) (left right : Expr) : Expr :=
  .binary op ⟨left.firstLeaf.start, right.lastLeaf.stop⟩ left right

/-- The literals of an expression with their places and the operators between them,
in the order in which they are read. -/
def chain : Expr → Chain (Literal × Span)
  | literal v s => .single (v, s)
  | binary op _ left right => left.chain.link op right.chain

/-- An expression and all the expressions inside it. -/
def nodes : Expr → List Expr
  | literal v s => [literal v s]
  | binary op s left right => binary op s left right :: (left.nodes ++ right.nodes)

end Expr

namespace Grammar

variable {ts us : List Token} {c d : Chain (Literal × Span)} {level : Level} {e : Expr}

/-! ## Alternating tokens -/

/-- The tokens are the operands and the operators of a chain, in order. -/
inductive Alternates : List Token → Chain (Literal × Span) → Prop where
  | single (v : Literal) (s : Span) : Alternates [.number v s] (.single (v, s))
  | link (v : Literal) (s : Span) (op : Operator) (place : Span) {ts : List Token}
      {c : Chain (Literal × Span)} : Alternates ts c →
      Alternates (.number v s :: .operator op place :: ts) ((Chain.single (v, s)).link op c)

/-- Alternating tokens determine their chain. -/
theorem Alternates.unique (h : Alternates ts c) (h' : Alternates ts d) : c = d := by
  induction h generalizing d with
  | single v s =>
    cases h'
    rfl
  | link v s op place _ ih =>
    cases h' with
    | link _ _ _ _ hrest => rw [ih hrest]

/-- Two alternating lists alternate with an operator between them. -/
theorem Alternates.append (h : Alternates ts c) (op : Operator) (place : Span)
    (h' : Alternates us d) :
    Alternates (ts ++ .operator op place :: us) (c.link op d) := by
  induction h with
  | single v s => exact .link v s op place h'
  | link v s next there _ ih =>
    rw [Chain.link_assoc]
    exact .link v s next there ih

/-! ## Derivations -/

/-- The expressions of each level that the grammar assigns to a list of tokens.  A
literal keeps the place of its token, and an operation reaches from its first literal to
its last. -/
inductive Derives : Level → List Token → Expr → Prop where
  /-- A literal is a power. -/
  | literal (v : Literal) (s : Span) : Derives .power [.number v s] (.literal v s)
  /-- A literal raised to a power is a power. -/
  | raise (v : Literal) (s place : Span) {ts : List Token} {right : Expr} :
      Derives .power ts right →
      Derives .power (.number v s :: .operator .pow place :: ts)
        (.spanning .pow (.literal v s) right)
  /-- A power is a product. -/
  | factor {ts : List Token} {e : Expr} : Derives .power ts e → Derives .product ts e
  /-- A product times a power, or divided by it, is a product. -/
  | scale {op : Operator} (hop : op.level = .product) (place : Span) {ts us : List Token}
      {left right : Expr} : Derives .product ts left → Derives .power us right →
      Derives .product (ts ++ .operator op place :: us) (.spanning op left right)
  /-- A product is a sum. -/
  | term {ts : List Token} {e : Expr} : Derives .product ts e → Derives .sum ts e
  /-- A sum plus a product, or less it, is a sum. -/
  | offset {op : Operator} (hop : op.level = .sum) (place : Span) {ts us : List Token}
      {left right : Expr} : Derives .sum ts left → Derives .product us right →
      Derives .sum (ts ++ .operator op place :: us) (.spanning op left right)

/-- An expression of any level is a sum. -/
theorem Derives.toSum (h : Derives level ts e) : Derives .sum ts e := by
  cases level with
  | power => exact .term (.factor h)
  | product => exact .term h
  | sum => exact h

/-- A derivation uses every token once and in order. -/
theorem Derives.alternates (h : Derives level ts e) : Alternates ts e.chain := by
  induction h with
  | literal v s => exact .single v s
  | raise v s place _ ih => exact .link v s .pow place ih
  | factor _ ih => exact ih
  | scale _ place _ _ ihLeft ihRight => exact ihLeft.append _ place ihRight
  | term _ ih => exact ih
  | offset _ place _ _ ihLeft ihRight => exact ihLeft.append _ place ihRight

/-- The operators of a derived expression are those that its level admits. -/
theorem Derives.admits (h : Derives level ts e) :
    ∀ op ∈ e.chain.operators, level.admits op := by
  induction h with
  | literal => simp [Expr.chain]
  | raise v s place _ ih =>
    intro op hop
    simp only [Expr.spanning, Expr.chain, Chain.operators_link, Chain.operators_single,
      List.nil_append, List.mem_cons] at hop
    rcases hop with rfl | hop
    · decide
    · exact ih op hop
  | factor _ ih =>
    intro op hop
    exact Level.admits_mono (by decide) (ih op hop)
  | scale hop _ _ _ ihLeft ihRight =>
    intro next hnext
    simp only [Expr.spanning, Expr.chain, Chain.operators_link, List.mem_append,
      List.mem_cons] at hnext
    rcases hnext with hnext | rfl | hnext
    · exact ihLeft next hnext
    · exact Level.admits_of_level_eq hop
    · exact Level.admits_mono (by decide) (ihRight next hnext)
  | term _ ih =>
    intro op hop
    exact Level.admits_mono (by decide) (ih op hop)
  | offset =>
    intro op _
    exact Level.admits_sum op

/-! ## Places -/

/-- A derived expression reaches from its first literal to its last. -/
theorem Derives.span_eq (h : Derives level ts e) :
    e.span = ⟨e.firstLeaf.start, e.lastLeaf.stop⟩ := by
  induction h with
  | literal => rfl
  | raise => rfl
  | factor _ ih => exact ih
  | scale => rfl
  | term _ ih => exact ih
  | offset => rfl

/-- Two derived expressions together reach from the first literal to the last. -/
theorem Derives.cover_span {tight : Level} {left right : Expr}
    (hleft : Derives level ts left) (hright : Derives tight us right) :
    Span.cover left.span right.span = ⟨left.firstLeaf.start, right.lastLeaf.stop⟩ := by
  rw [hleft.span_eq, hright.span_eq]
  rfl

/-- Joined expressions reach from their first literal to their last. -/
theorem Derives.spanning_eq_join {tight : Level} {left right : Expr} (op : Operator)
    (hleft : Derives level ts left) (hright : Derives tight us right) :
    Expr.spanning op left right = .join op left right := by
  rw [Expr.spanning, Expr.join, hleft.cover_span hright]

/-- A derived expression starts where its first token starts. -/
theorem Derives.exists_first (h : Derives level ts e) :
    ∃ t rest, ts = t :: rest ∧ t.span.start = e.firstLeaf.start := by
  induction h with
  | literal => exact ⟨_, _, rfl, rfl⟩
  | raise => exact ⟨_, _, rfl, rfl⟩
  | factor _ ih => exact ih
  | scale _ _ _ _ ihLeft =>
    rcases ihLeft with ⟨t, rest, rfl, hstart⟩
    exact ⟨t, _, rfl, hstart⟩
  | term _ ih => exact ih
  | offset _ _ _ _ ihLeft =>
    rcases ihLeft with ⟨t, rest, rfl, hstart⟩
    exact ⟨t, _, rfl, hstart⟩

/-- A derived expression stops where its last token stops. -/
theorem Derives.exists_last (h : Derives level ts e) :
    ∃ front t, ts = front ++ [t] ∧ t.span.stop = e.lastLeaf.stop := by
  induction h with
  | literal v s => exact ⟨[], _, rfl, rfl⟩
  | raise v s place _ ih =>
    rcases ih with ⟨front, t, rfl, hstop⟩
    exact ⟨.number v s :: .operator .pow place :: front, t, rfl, hstop⟩
  | factor _ ih => exact ih
  | @scale op _ place left _ _ _ _ _ _ ihRight =>
    rcases ihRight with ⟨front, t, rfl, hstop⟩
    exact ⟨left ++ .operator op place :: front, t, by simp, hstop⟩
  | term _ ih => exact ih
  | @offset op _ place left _ _ _ _ _ _ ihRight =>
    rcases ihRight with ⟨front, t, rfl, hstop⟩
    exact ⟨left ++ .operator op place :: front, t, by simp, hstop⟩

/-- The last token of a derivation is the last one of the tokens that end with it. -/
theorem Derives.getLast?_append (h : Derives level us e) (before : List Token) :
    (before ++ us).getLast? = us.getLast? := by
  rcases h.exists_last with ⟨front, t, rfl, _⟩
  rw [← List.append_assoc, List.getLast?_concat, List.getLast?_concat]

/-! ## Existence -/

/-- One more operand can be put in front.  A tighter operator is drawn into the first
operand of the first operator that is looser. -/
theorem Derives.exists_prepend (h : Derives level ts e) (v : Literal) (s : Span)
    {op : Operator} (place : Span) (hop : level.admits op) :
    ∃ e', Derives level (.number v s :: .operator op place :: ts) e' := by
  induction h with
  | literal w t =>
    cases op <;> simp [Level.admits, Operator.level, Level.rank] at hop
    exact ⟨_, .raise v s place (.literal w t)⟩
  | raise w t there hright =>
    cases op <;> simp [Level.admits, Operator.level, Level.rank] at hop
    exact ⟨_, .raise v s place (.raise w t there hright)⟩
  | factor hpower ih =>
    by_cases htight : Level.power.admits op
    · rcases ih htight with ⟨e', he'⟩
      exact ⟨e', .factor he'⟩
    · have hlevel : op.level = .product := by
        cases op <;> simp_all [Level.admits, Operator.level, Level.rank]
      exact ⟨_, .scale hlevel place (.factor (.literal v s)) hpower⟩
  | scale hnext there _ hright ihLeft =>
    rcases ihLeft hop with ⟨e', he'⟩
    exact ⟨_, .scale hnext there he' hright⟩
  | term hproduct ih =>
    by_cases htight : Level.product.admits op
    · rcases ih htight with ⟨e', he'⟩
      exact ⟨e', .term he'⟩
    · have hlevel : op.level = .sum := by
        cases op <;> simp_all [Level.admits, Operator.level, Level.rank]
      exact ⟨_, .offset hlevel place (.term (.factor (.literal v s))) hproduct⟩
  | offset hnext there _ hright ihLeft =>
    rcases ihLeft hop with ⟨e', he'⟩
    exact ⟨_, .offset hnext there he' hright⟩

/-- Whenever numbers and operators alternate, the grammar derives an expression. -/
theorem Alternates.exists_derives (h : Alternates ts c) : ∃ e, Derives .sum ts e := by
  induction h with
  | single v s => exact ⟨_, .term (.factor (.literal v s))⟩
  | link v s op place _ ih =>
    rcases ih with ⟨e, he⟩
    exact he.exists_prepend v s place (Level.admits_sum op)

/-! ## Parts of expressions -/

/-- Every part of a derived expression is derived from a stretch of the tokens. -/
theorem Derives.exists_infix_of_mem_nodes {node : Expr} (h : Derives level ts e)
    (hnode : node ∈ e.nodes) : ∃ inner, inner <:+: ts ∧ Derives .sum inner node := by
  induction h with
  | literal v s =>
    rw [Expr.nodes, List.mem_singleton] at hnode
    subst hnode
    exact ⟨_, List.infix_refl _, .term (.factor (.literal v s))⟩
  | raise v s place hright ih =>
    simp only [Expr.spanning, Expr.nodes, List.mem_cons, List.mem_append, List.not_mem_nil,
      or_false] at hnode
    rcases hnode with rfl | rfl | hnode
    · exact ⟨_, List.infix_refl _, (Derives.raise v s place hright).toSum⟩
    · exact ⟨[.number v s], List.infix_append [] _ _, .term (.factor (.literal v s))⟩
    · rcases ih hnode with ⟨inner, hinfix, hinner⟩
      exact ⟨inner, List.infix_cons (List.infix_cons hinfix), hinner⟩
  | factor _ ih => exact ih hnode
  | scale hop place hleft hright ihLeft ihRight =>
    simp only [Expr.spanning, Expr.nodes, List.mem_cons, List.mem_append] at hnode
    rcases hnode with rfl | hnode | hnode
    · exact ⟨_, List.infix_refl _, (Derives.scale hop place hleft hright).toSum⟩
    · rcases ihLeft hnode with ⟨inner, hinfix, hinner⟩
      exact ⟨inner, hinfix.trans (List.prefix_append _ _).isInfix, hinner⟩
    · rcases ihRight hnode with ⟨inner, hinfix, hinner⟩
      exact ⟨inner, (List.infix_cons hinfix).trans (List.suffix_append _ _).isInfix, hinner⟩
  | term _ ih => exact ih hnode
  | offset hop place hleft hright ihLeft ihRight =>
    simp only [Expr.spanning, Expr.nodes, List.mem_cons, List.mem_append] at hnode
    rcases hnode with rfl | hnode | hnode
    · exact ⟨_, List.infix_refl _, .offset hop place hleft hright⟩
    · rcases ihLeft hnode with ⟨inner, hinfix, hinner⟩
      exact ⟨inner, hinfix.trans (List.prefix_append _ _).isInfix, hinner⟩
    · rcases ihRight hnode with ⟨inner, hinfix, hinner⟩
      exact ⟨inner, (List.infix_cons hinfix).trans (List.suffix_append _ _).isInfix, hinner⟩

/-- The operands of a derived operation are derived from the tokens on the two sides of its
operator. -/
theorem Derives.exists_operands {op : Operator} {s : Span} {left right : Expr}
    (h : Derives level ts (.binary op s left right)) :
    ∃ before place behind, ts = before ++ .operator op place :: behind ∧
      Derives .sum before left ∧ Derives .sum behind right ∧
      s = .cover left.span right.span := by
  generalize hnode : Expr.binary op s left right = e at h
  induction h with
  | literal => cases hnode
  | raise v here place hright =>
    cases hnode
    have hleft : Derives .power _ (.literal v here) := .literal v here
    exact ⟨_, place, _, rfl, hleft.toSum, hright.toSum, (hleft.cover_span hright).symm⟩
  | factor _ ih => exact ih hnode
  | scale _ place hleft hright =>
    cases hnode
    exact ⟨_, place, _, rfl, hleft.toSum, hright.toSum, (hleft.cover_span hright).symm⟩
  | term _ ih => exact ih hnode
  | offset _ place hleft hright =>
    cases hnode
    exact ⟨_, place, _, rfl, hleft, hright.toSum, (hleft.cover_span hright).symm⟩

/-! ## Moved expressions -/

theorem firstLeaf_mapSpans (f : Span → Span) (e : Expr) :
    (e.mapSpans f).firstLeaf = f e.firstLeaf := by
  induction e with
  | literal => rfl
  | binary _ _ _ _ ihLeft => exact ihLeft

theorem lastLeaf_mapSpans (f : Span → Span) (e : Expr) :
    (e.mapSpans f).lastLeaf = f e.lastLeaf := by
  induction e with
  | literal => rfl
  | binary _ _ _ _ _ ihRight => exact ihRight

/-- An operation is moved with its operands, if the spans they cover are. -/
theorem mapSpans_spanning {f : Span → Span}
    (hf : ∀ a b, f (.cover a b) = .cover (f a) (f b)) (op : Operator) (left right : Expr) :
    (Expr.spanning op left right).mapSpans f =
      .spanning op (left.mapSpans f) (right.mapSpans f) := by
  have hcover := hf left.firstLeaf right.lastLeaf
  simp only [Span.cover] at hcover
  simp only [Expr.spanning, Expr.mapSpans, firstLeaf_mapSpans, lastLeaf_mapSpans, hcover]

/-- Moved tokens derive the moved expression. -/
theorem Derives.mapSpans {f : Span → Span}
    (hf : ∀ a b, f (.cover a b) = .cover (f a) (f b)) (h : Derives level ts e) :
    Derives level (ts.map (Token.mapSpan f)) (e.mapSpans f) := by
  induction h with
  | literal v s => exact .literal v (f s)
  | raise v s place _ ih =>
    rw [mapSpans_spanning hf]
    exact .raise v (f s) (f place) ih
  | factor _ ih => exact .factor ih
  | scale hop place _ _ ihLeft ihRight =>
    rw [mapSpans_spanning hf, List.map_append]
    exact .scale hop (f place) ihLeft ihRight
  | term _ ih => exact .term ih
  | offset hop place _ _ ihLeft ihRight =>
    rw [mapSpans_spanning hf, List.map_append]
    exact .offset hop (f place) ihLeft ihRight

end Grammar

end InfixArithmetic
