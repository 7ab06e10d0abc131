import DocumentServer.Proofs.Template.Stream
import DocumentServer.Template.Expression

/-!
Readers of expressions do not look at the text outside of tags.
-/
namespace DocumentServer.Template.Expression
open Parse

variable {α : Type} {item : Parse α} {whole operand : Parse Located}

/-! ## Items -/

instance blind_atTupleEnd (words : List String) : Blind (atTupleEnd words) := by
  unfold atTupleEnd
  refine blind_lexeme (.of_swap rfl rfl) fun found => ?_
  split <;> infer_instance

instance blind_tupleStep [Blind item] (words : List String) (s : Items α) :
    Blind (tupleStep item words s) := by
  unfold tupleStep
  infer_instance

instance blind_tupleItems [Blind item] (words : List String) : Blind (tupleItems item words) := by
  unfold tupleItems
  infer_instance

instance blind_tuple [Blind whole] (words : List String) (inParentheses : Bool) :
    Blind (tuple whole words inParentheses) := by
  unfold tuple
  refine @blind_bind _ _ _ _ _ fun found => ?_
  dsimp only
  split
  · infer_instance
  · split
    · infer_instance
    · exact blind_lexeme (.of_swap rfl rfl) fun _ => inferInstance
  · infer_instance

instance blind_listStep [Blind item] (closing : String) (items : List α) :
    Blind (listStep closing item items) := by
  unfold listStep
  infer_instance

instance blind_bracketed [Blind item] (closing : String) : Blind (bracketed closing item) := by
  unfold bracketed
  infer_instance

instance blind_dictEntry [Blind whole] : Blind (dictEntry whole) := by
  unfold dictEntry
  infer_instance

instance blind_textStep (text : String) : Blind (textStep text) := by
  unfold textStep
  refine blind_lexeme (.of_swap rfl rfl) fun found => ?_
  split <;> infer_instance

instance blind_bracketExpr [Blind whole] (line : Nat) (sign : String) :
    Blind (bracketExpr whole line sign) := by
  unfold bracketExpr
  infer_instance

instance blind_primary [Blind whole] : Blind (primary whole) := by
  unfold primary
  refine blind_current (fun _ => .of_swap rfl rfl) fun found => ?_
  split <;> infer_instance

/-! ## Calls and subscripts -/

instance blind_badCall : Blind (badCall : Parse α) := blind_fail _

instance blind_positionalArgument [Blind whole] (a : Arguments) :
    Blind (positionalArgument whole a) := by
  unfold positionalArgument
  infer_instance

instance blind_namedArgument [Blind whole] (name : String) (a : Arguments) :
    Blind (namedArgument whole name a) := by
  unfold namedArgument
  infer_instance

instance blind_argument [Blind whole] (a : Arguments) : Blind (argument whole a) := by
  unfold argument
  refine blind_lexeme (.of_swap rfl rfl) fun found => ?_
  split
  · infer_instance
  · infer_instance
  · exact blind_look (.of_swap rfl rfl) fun _ => inferInstance
  · infer_instance

instance blind_callStep [Blind whole] (s : CallState) : Blind (callStep whole s) := by
  unfold callStep
  infer_instance

instance blind_callArguments [Blind whole] : Blind (callArguments whole) := by
  unfold callArguments
  infer_instance

instance blind_atSubscriptEnd : Blind atSubscriptEnd := by
  unfold atSubscriptEnd
  infer_instance

instance blind_optionalPart [Blind whole] : Blind (optionalPart whole) := by
  unfold optionalPart
  infer_instance

instance blind_sliceRest [Blind whole] (start : Option Expr) : Blind (sliceRest whole start) := by
  unfold sliceRest
  infer_instance

instance blind_subscript [Blind whole] : Blind (subscript whole) := by
  unfold subscript
  infer_instance

instance blind_subscriptStep [Blind whole] (keys : List Subscript) :
    Blind (subscriptStep whole keys) := by
  unfold subscriptStep
  infer_instance

instance blind_member (owner : Expr) : Blind (member owner) := by
  unfold member
  refine blind_advance (fun _ => .of_swap rfl rfl) fun found => ?_
  split <;> infer_instance

instance blind_postfixStep [Blind whole] (owner : Located) : Blind (postfixStep whole owner) := by
  unfold postfixStep
  refine blind_current (fun _ => .of_swap rfl rfl) fun found => ?_
  split <;> infer_instance

instance blind_withPostfixes [Blind whole] (owner : Located) : Blind (withPostfixes whole owner) := by
  unfold withPostfixes
  infer_instance

/-! ## Filters and tests -/

instance blind_dottedStep (name : String) : Blind (dottedStep name) := by
  unfold dottedStep
  infer_instance

instance blind_dottedName : Blind dottedName := by
  unfold dottedName
  infer_instance

instance blind_optionalArguments [Blind whole] : Blind (optionalArguments whole) := by
  unfold optionalArguments
  infer_instance

instance blind_filterCall [Blind whole] (subject : Expr) : Blind (filterCall whole subject) := by
  unfold filterCall
  infer_instance

instance blind_filterStep [Blind whole] (subject : Located) : Blind (filterStep whole subject) := by
  unfold filterStep
  infer_instance

instance blind_testArguments [Blind whole] : Blind (testArguments whole) := by
  unfold testArguments
  refine @blind_bind _ _ _ _ _ fun called => ?_
  split
  · infer_instance
  · exact blind_lexeme (.of_swap rfl rfl) fun _ => inferInstance

instance blind_testCall [Blind whole] (subject : Expr) : Blind (testCall whole subject) := by
  unfold testCall
  exact blind_advance (fun _ => .of_swap rfl rfl) fun _ => inferInstance

instance blind_filterOrTestStep [Blind whole] (subject : Located) :
    Blind (filterOrTestStep whole subject) := by
  unfold filterOrTestStep
  refine blind_current (fun _ => .of_swap rfl rfl) fun found => ?_
  split <;> infer_instance

instance blind_withFilters [Blind whole] (subject : Located) : Blind (withFilters whole subject) := by
  unfold withFilters
  infer_instance

/-! ## Levels of precedence -/

instance blind_signed [Blind whole] (fuel : Nat) : Blind (signed whole fuel) := by
  induction fuel with
  | zero => exact blind_fail _
  | succ fuel ih =>
      unfold signed
      refine blind_current (fun _ => .of_swap rfl rfl) fun found => ?_
      split <;> infer_instance

instance blind_unary [Blind whole] : Blind (unary whole) := by
  unfold unary
  exact blind_bound fun n => signed whole (n + 1) >>= withFilters whole

instance blind_chainStep [Blind operand] (table : List (String × BinaryOperator)) (c : Chain) :
    Blind (chainStep table operand c) := by
  unfold chainStep
  refine blind_lexeme (.of_swap rfl rfl) fun found => ?_
  split <;> infer_instance

instance blind_leftChain [Blind operand] (table : List (String × BinaryOperator)) :
    Blind (leftChain table operand) := by
  unfold leftChain
  infer_instance

instance blind_power [Blind whole] : Blind (power whole) := by
  unfold power
  infer_instance

instance blind_product [Blind whole] : Blind (product whole) := by
  unfold product
  infer_instance

instance blind_concatStep [Blind operand] (items : List Expr) : Blind (concatStep operand items) := by
  unfold concatStep
  infer_instance

instance blind_concat [Blind whole] : Blind (concat whole) := by
  unfold concat
  refine @blind_bind _ _ _ _ _ fun start => @blind_bind _ _ _ _ _ fun first =>
    @blind_bind _ _ _ _ _ fun found => ?_
  split <;> infer_instance

instance blind_sum [Blind whole] : Blind (sum whole) := by
  unfold sum
  infer_instance

instance blind_comparison : Blind comparison? := by
  unfold comparison?
  refine blind_lexeme (.of_swap rfl rfl) fun found => ?_
  split
  · infer_instance
  · split
    · infer_instance
    · exact blind_look (.of_swap rfl rfl) fun _ => inferInstance

instance blind_compareStep [Blind whole] (c : Comparisons) : Blind (compareStep whole c) := by
  unfold compareStep
  refine @blind_bind _ _ _ _ _ fun found => ?_
  split <;> infer_instance

instance blind_compare [Blind whole] : Blind (compare whole) := by
  unfold compare
  infer_instance

instance blind_negation [Blind whole] (fuel : Nat) : Blind (negation whole fuel) := by
  induction fuel with
  | zero => exact blind_fail _
  | succ fuel ih =>
      unfold negation
      infer_instance

instance blind_conjunct [Blind whole] : Blind (conjunct whole) := by
  unfold conjunct
  exact blind_bound fun n => negation whole (n + 1)

instance blind_wordChainStep [Blind operand] (word : String) (join : Expr → Expr → Expr)
    (c : Chain) : Blind (wordChainStep word join operand c) := by
  unfold wordChainStep
  infer_instance

instance blind_wordChain [Blind operand] (word : String) (join : Expr → Expr → Expr) :
    Blind (wordChain word join operand) := by
  unfold wordChain
  infer_instance

instance blind_conjunction [Blind whole] : Blind (conjunction whole) := by
  unfold conjunction
  infer_instance

instance blind_disjunction [Blind whole] : Blind (disjunction whole) := by
  unfold disjunction
  infer_instance

instance blind_conditionStep [Blind whole] (c : Chain) : Blind (conditionStep whole c) := by
  unfold conditionStep
  infer_instance

instance blind_conditional [Blind whole] : Blind (conditional whole) := by
  unfold conditional
  infer_instance

instance blind_expression (fuel : Nat) : Blind (expression fuel) := by
  induction fuel with
  | zero => exact blind_fail _
  | succ fuel ih => exact blind_conditional

instance blind_whole : Blind Expression.whole := by
  unfold Expression.whole
  exact blind_bound fun n => expression (n + 1)

instance blind_plain : Blind plain := by
  unfold plain
  infer_instance

end DocumentServer.Template.Expression
