/-
**Calls in Go expressions.**

A call is looked for as a parenthesis right after a character of a name. `GoExpr` are the expressions
with their white space, and `call_detected_iff` says which calls are seen: those whose callee ends in an
ASCII letter, a digit or an underscore, and with it the literals that look like one.
-/

import Detrix.Core.Metric

namespace Detrix.Core

open List

/-- A character that a call is seen after. -/
def beforeCall (c : Char) : Bool := c.isAlphanum || c = '_' || c = '.'

/-- White space or an operator. -/
structure Separator where
  text : List Char
  plain : ∀ c ∈ text, beforeCall c = false ∧ c ≠ '('

structure GoWord where
  first : Char
  rest : List Char
  notOpen : first ≠ '('

/-- **Expressions as they are written.** White space stands around every part, as `spaced`. -/
inductive GoExpr where
  | word (w : GoWord)
  | select (e : GoExpr) (gap : Separator) (name : GoWord)
  | index (e i : GoExpr)
  | paren (e : GoExpr)
  | unary (op : Separator) (e : GoExpr)
  | binary (e : GoExpr) (op : Separator) (nonempty : op.text ≠ []) (f : GoExpr)
  | call (callee : GoExpr) (args : List GoExpr)
  | spaced (before : Separator) (e : GoExpr) (after : Separator)

def GoWord.text (w : GoWord) : List Char := w.first :: w.rest

mutual

def GoExpr.text : GoExpr → List Char
  | .word w => w.text
  | .select e gap name => e.text ++ '.' :: (gap.text ++ name.text)
  | .index e i => e.text ++ '[' :: (i.text ++ [']'])
  | .paren e => '(' :: (e.text ++ [')'])
  | .unary op e => op.text ++ e.text
  | .binary e op _ f => e.text ++ (op.text ++ f.text)
  | .call callee args => callee.text ++ '(' :: argsText args
  | .spaced before e after => before.text ++ (e.text ++ after.text)

def argsText : List GoExpr → List Char
  | [] => [')']
  | [e] => e.text ++ [')']
  | e :: f :: rest => e.text ++ ',' :: argsText (f :: rest)

end

def GoExpr.hasCall : GoExpr → Bool
  | .word _ => false
  | .select e _ _ | .paren e | .unary _ e | .spaced _ e _ => e.hasCall
  | .index e f | .binary e _ _ f => e.hasCall || f.hasCall
  | .call _ _ => true

mutual

/-- **A call is in sight**: the callee ends in a character of a name, or a word looks like a call. -/
def GoExpr.inSight : GoExpr → Bool
  | .word w => hasCallAt w.text
  | .select e _ name => e.inSight || hasCallAt name.text
  | .paren e | .unary _ e | .spaced _ e _ => e.inSight
  | .index e f | .binary e _ _ f => e.inSight || f.inSight
  | .call callee args => callee.inSight || callee.text.getLast?.any beforeCall || anyInSight args

def anyInSight : List GoExpr → Bool
  | [] => false
  | e :: rest => e.inSight || anyInSight rest

end

theorem hasCallAt_append (a b : List Char) : hasCallAt (a ++ b) =
    (hasCallAt a || (a.getLast?.any beforeCall && decide (b.head? = some '(')) || hasCallAt b) := by
  induction a with
  | nil => simp [hasCallAt]
  | cons c rest ih =>
    cases rest with
    | nil => cases b <;> simp [hasCallAt, beforeCall, Bool.and_comm]
    | cons d rest =>
      rw [cons_append, cons_append, hasCallAt, ← cons_append, ih, hasCallAt, getLast?_cons_cons]
      simp [Bool.or_assoc]

/-- Nothing is seen across a character that does not open a parenthesis. -/
theorem hasCallAt_append_cons (a : List Char) {c : Char} (notOpen : c ≠ '(') (b : List Char) :
    hasCallAt (a ++ c :: b) = (hasCallAt a || hasCallAt (c :: b)) := by
  simp [hasCallAt_append, notOpen]

theorem hasCallAt_cons {c : Char} (plain : beforeCall c = false) (b : List Char) :
    hasCallAt (c :: b) = hasCallAt b := by
  simpa [plain, hasCallAt] using hasCallAt_append [c] b

theorem Separator.hasCallAt_append (s : Separator) (b : List Char) :
    hasCallAt (s.text ++ b) = hasCallAt b := by
  obtain ⟨text, plain⟩ := s
  induction text with
  | nil => rfl
  | cons c rest ih =>
    rw [cons_append, hasCallAt_cons (plain c (.head _)).1]
    exact ih fun d mem => plain d (.tail _ mem)

theorem Separator.append_hasCallAt (s : Separator) (a : List Char) :
    hasCallAt (a ++ s.text) = hasCallAt a := by
  cases isText : s.text with
  | nil => rw [append_nil]
  | cons c rest =>
    rw [hasCallAt_append_cons a (s.plain c (by simp [isText])).2, ← isText, ← append_nil s.text,
      s.hasCallAt_append]
    exact Bool.or_false _

mutual

theorem GoExpr.hasCallAt_text : ∀ e : GoExpr, hasCallAt e.text = e.inSight
  | .word w => rfl
  | .select e gap name => by
    have notOpen : (gap.text ++ name.text).head? ≠ some '(' := by
      cases isText : gap.text with
      | nil => simpa [GoWord.text] using name.notOpen
      | cons c rest => simpa using (gap.plain c (by simp [isText])).2
    have dot := hasCallAt_append ['.'] (gap.text ++ name.text)
    rw [decide_eq_false notOpen, gap.hasCallAt_append, Bool.and_false] at dot
    rw [GoExpr.text, hasCallAt_append_cons _ (by decide), e.hasCallAt_text, ← singleton_append, dot]
    rfl
  | .index e i => by
    rw [GoExpr.text, hasCallAt_append_cons _ (by decide), hasCallAt_cons rfl,
      hasCallAt_append_cons _ (by decide), e.hasCallAt_text, i.hasCallAt_text, hasCallAt_cons rfl]
    simp [hasCallAt, GoExpr.inSight]
  | .paren e => by
    rw [GoExpr.text, hasCallAt_cons rfl, hasCallAt_append_cons _ (by decide), e.hasCallAt_text]
    simp [hasCallAt, GoExpr.inSight]
  | .unary op e => (op.hasCallAt_append _).trans e.hasCallAt_text
  | .binary e op nonempty f => by
    obtain ⟨c, rest, isText⟩ := exists_cons_of_ne_nil nonempty
    rw [GoExpr.text, isText, cons_append, hasCallAt_append_cons _ (op.plain c (by simp [isText])).2,
      ← cons_append, ← isText, op.hasCallAt_append, e.hasCallAt_text, f.hasCallAt_text]
    rfl
  | .call callee args => by
    rw [GoExpr.text, hasCallAt_append, hasCallAt_cons rfl, callee.hasCallAt_text, hasCallAt_args args]
    simp [GoExpr.inSight]
  | .spaced before e after => by
    rw [GoExpr.text, before.hasCallAt_append, after.append_hasCallAt, e.hasCallAt_text]
    rfl

theorem hasCallAt_args : ∀ args : List GoExpr, hasCallAt (argsText args) = anyInSight args
  | [] => rfl
  | [e] => by
    rw [argsText, hasCallAt_append_cons _ (by decide), e.hasCallAt_text]
    rfl
  | e :: f :: rest => by
    rw [argsText, hasCallAt_append_cons _ (by decide), hasCallAt_cons rfl, e.hasCallAt_text,
      hasCallAt_args (f :: rest)]
    rfl

end

/-- **A call is detected** exactly if one is in sight, whatever else the expression calls. -/
theorem call_detected_iff (e : GoExpr) :
    expressionContainsFunctionCall (String.ofList e.text) = true ↔ e.inSight = true := by
  rw [expressionContainsFunctionCall, String.toList_ofList, e.hasCallAt_text]

/-- The call `f (x)` is not detected. -/
theorem spaced_call_undetected :
    ∃ e : GoExpr, e.hasCall = true ∧ e.text = "f (x)".toList ∧
      expressionContainsFunctionCall "f (x)" = false :=
  ⟨.call (.spaced ⟨[], nofun⟩ (.word ⟨'f', [], by decide⟩) ⟨[' '], by simp [beforeCall]⟩)
    [.word ⟨'x', [], by decide⟩], rfl, rfl, by decide⟩

end Detrix.Core
