import ScalarCall.Call.Tree
import ScalarCall.Proofs.Call.Block

/-!
Traces of generated calls. A trace keeps the block of each call of a tree, with the registries
before and after it, so that what the calls have done can be told call by call.
-/

namespace ScalarCall

structure CallRun where
  generator : CallGenerator
  operands : List Expression
  returnType : SqlType
  before : Registry
  block : CallBlock
  after : Registry
  run : (generator.block operands returnType).run.run before = (.ok block, after)

/-- What generating a tree of calls leaves behind. -/
inductive CallTrace
  | operand (e : Expression)
  | call (run : CallRun) (operands : List CallTrace)

namespace CallTrace

def expression : CallTrace → Expression
  | operand e => e
  | call c _ => c.block.expression

def run? : CallTrace → Option CallRun
  | operand _ => none
  | call c _ => some c

/-- The code that is a trace's own: that of the operand, or the block of the call. -/
def own : CallTrace → List String
  | operand e => [e.code]
  | call c _ => [codeOf c.block.assignment, codeOf c.block.result.statements]

mutual
/-- The trace and all traces within it, a call after its operands. -/
def postorder : CallTrace → List CallTrace
  | operand e => [operand e]
  | call c xs => postorderAll xs ++ [call c xs]
def postorderAll : List CallTrace → List CallTrace
  | [] => []
  | x :: xs => x.postorder ++ postorderAll xs
end

def calls (x : CallTrace) : List CallRun := x.postorder.filterMap run?

end CallTrace

mutual
/-- Generating the tree from the first registry leaves the trace and the second registry. -/
inductive CallTree.Leaves : CallTree → Registry → CallTrace → Registry → Prop
  | operand (e : Expression) (r : Registry) : CallTree.Leaves (.operand e) r (.operand e) r
  | call {ts : List CallTree} {r : Registry} {xs : List CallTrace} (c : CallRun)
      (h : CallTree.LeavesAll ts r xs c.before)
      (ho : c.operands = xs.map CallTrace.expression) :
    CallTree.Leaves (.call c.generator ts c.returnType) r (.call c xs) c.after
inductive CallTree.LeavesAll : List CallTree → Registry → List CallTrace → Registry → Prop
  | nil (r : Registry) : CallTree.LeavesAll [] r [] r
  | cons {t : CallTree} {ts : List CallTree} {r m s : Registry} {x : CallTrace}
      {xs : List CallTrace} (h : CallTree.Leaves t r x m) (hs : CallTree.LeavesAll ts m xs s) :
    CallTree.LeavesAll (t :: ts) r (x :: xs) s
end

namespace CallTree

mutual
/-- Every tree that can be generated leaves a trace of its expression. -/
theorem exists_leaves (t : CallTree) {r s : Registry} {e : Expression}
    (h : t.generate.run.run r = (.ok e, s)) : ∃ x, t.Leaves r x s ∧ x.expression = e := by
  cases t with
  | operand e' =>
    cases h
    exact ⟨.operand _, .operand _ _, rfl⟩
  | call g ts returnType =>
    rw [generate] at h
    obtain ⟨es, m, hes, hcall⟩ := Generating.run_bind_eq_ok.1 h
    obtain ⟨b, n, hb, he⟩ := Generating.run_bind_eq_ok.1 hcall
    cases he
    obtain ⟨xs, hxs, rfl⟩ := exists_leavesAll ts hes
    let c : CallRun := ⟨g, xs.map CallTrace.expression, returnType, m, b, s, hb⟩
    exact ⟨.call c xs, .call c hxs rfl, rfl⟩
theorem exists_leavesAll (ts : List CallTree) {r s : Registry} {es : List Expression}
    (h : (generateAll ts).run.run r = (.ok es, s)) :
    ∃ xs, LeavesAll ts r xs s ∧ xs.map CallTrace.expression = es := by
  cases ts with
  | nil =>
    cases h
    exact ⟨[], .nil _, rfl⟩
  | cons t ts =>
    rw [generateAll] at h
    obtain ⟨e, m, he, hrest⟩ := Generating.run_bind_eq_ok.1 h
    obtain ⟨es', n, hes, h⟩ := Generating.run_bind_eq_ok.1 hrest
    cases h
    obtain ⟨x, hx, rfl⟩ := exists_leaves t he
    obtain ⟨xs, hxs, rfl⟩ := exists_leavesAll ts hes
    exact ⟨x :: xs, .cons hx hxs, rfl⟩
end

end CallTree

end ScalarCall
