import Mathlib.Data.List.Basic
import Watchpost.Template.Render

set_option autoImplicit false

/-! # What statements give

Rendering runs statements in a machine. An action that succeeds gives a value and leaves a machine,
`Gives`. A statement that runs others gives what these give: a branch the text of its side, a loop
the texts of its passes, one behind another. -/

namespace Watchpost.Template.Run

variable {α β : Type}

/-! ## Actions -/

/-- In the machine `m` the action gives `a` and leaves `m'`. -/
def Gives (run : Run α) (m : Machine) (a : α) (m' : Machine) : Prop :=
  run.run.run m = (some a, m')

variable {run : Run α} {m m' m'' : Machine} {a : α}

/-- After an action that gives a value, the next one runs in the machine it leaves. -/
theorem Gives.bind {next : α → Run β} {b : β} (h : Gives run m a m')
    (hnext : Gives (next a) m' b m'') : Gives (run >>= next) m b m'' := by
  unfold Gives at h hnext ⊢
  simp only [OptionT.run_bind, StateT.run_bind, Option.elimM, h]
  exact hnext

theorem Gives.map (h : Gives run m a m') (f : α → β) : Gives (f <$> run) m (f a) m' := by
  rw [map_eq_pure_bind]
  exact h.bind rfl

/-- An action with a frame of its own leaves the frames below it. -/
theorem Gives.framed (h : Gives run { m with frames := [] :: m.frames } a m') :
    Gives (withFrame run) m a { m' with frames := m'.frames.tail } :=
  have hopen : Gives (modify fun m => { m with frames := [] :: m.frames }) m ()
    { m with frames := [] :: m.frames } := rfl
  hopen.bind (h.bind rfl)

/-! ## Texts in a row -/

/-- The texts that an action gives for some items, one behind another. -/
def texts (act : α → Run String) : List α → Run String
  | [] => pure ""
  | item :: items => do
    let text ← act item
    (text ++ ·) <$> texts act items

theorem forIn_eq_texts (act : α → Run String) (items : List α) (out : String) :
    (forIn items out fun item out => do
      let text ← act item
      return .yield (out ++ text)) = (out ++ ·) <$> texts act items := by
  induction items generalizing out with
  | nil => simp [texts]
  | cons item items ih =>
    simp only [List.forIn_cons, texts, bind_assoc, pure_bind, ih, map_bind, Functor.map_map,
      String.append_assoc]

theorem Gives.texts_cons (act : α → Run String) {item : α} {items : List α} {text rest : String}
    (h : Gives (act item) m text m') (hrest : Gives (texts act items) m' rest m'') :
    Gives (texts act (item :: items)) m (text ++ rest) m'' :=
  h.bind (hrest.map _)

variable {fuel : Nat} {s : Setting}

theorem execAll_succ (stmts : List Stmt) :
    execAll (fuel + 1) s stmts = texts (exec fuel s) stmts := by
  have hloop := forIn_eq_texts (exec fuel s) stmts ""
  rw [execAll]
  simpa using hloop

/-! ## Blocks -/

theorem Gives.branch {test : Expr} {yes no : List Stmt} {v : Value} {text : String}
    (h : Gives (eval fuel s test) m v m')
    (hside : Gives (execAll fuel s (if v.isTrue then yes else no)) m' text m'') :
    Gives (exec (fuel + 1) s (.branch test yes no)) m text m'' := by
  rw [exec]
  refine h.bind ?_
  cases hv : v.isTrue <;> simpa [hv] using hside

/-- Assign values to targets, one after another. -/
def bindAll (fuel : Nat) (s : Setting) (assignments : List (Target × Expr)) : Run Unit := do
  for (t, e) in assignments do bindTarget fuel s t (← eval fuel s e)

theorem Gives.bindBlock {assignments : List (Target × Expr)} {body : List Stmt} {text : String}
    (h : Gives (bindAll fuel s assignments) { m with frames := [] :: m.frames } () m')
    (hbody : Gives (execAll fuel s body) m' text m'') :
    Gives (exec (fuel + 1) s (.bind assignments body)) m text
      { m'' with frames := m''.frames.tail } := by
  have hexec : exec (fuel + 1) s (.bind assignments body)
      = withFrame (bindAll fuel s assignments >>= fun _ => execAll fuel s body) := by
    rw [exec]
    simp [bindAll]
  rw [hexec]
  exact Gives.framed (h.bind hbody)

theorem Gives.block (name : String) {body : List Stmt} {text : String}
    (h : Gives (execAll fuel { s with depth := 0 } body) { m with frames := [] :: m.frames } text
      m') :
    Gives (exec (fuel + 1) s (.block name body)) m text { m' with frames := m'.frames.tail } := by
  rw [exec]
  exact h.framed

/-! ## Loops -/

/-- The items of a loop that meet its condition. -/
def chosen (fuel : Nat) (s : Setting) (target : Target) (items : List Value) :
    Option Expr → Run (List Value)
  | none => pure items
  | some test => withFrame <| items.filterM fun v => do
    bindTarget fuel s target v
    return (← eval fuel s test).isTrue

/-- The items that a loop runs over, and the procedure that runs it again. -/
def openLoop (fuel : Nat) (s : Setting) (target : Target) (items : Expr) (condition : Option Expr)
    (recursive : Bool) (body otherwise : List Stmt) : Run (List Value × Option Nat) := do
  let found ← ofOption (← eval (fuel + 1) s items).items?
  let again ← if recursive
    then some <$> newProcedure (.loop target condition body otherwise) else pure none
  return (← chosen fuel s target found condition, again)

/-- A loop over some items. -/
structure Loop where
  target : Target
  body : List Stmt
  items : List Value
  memory : Nat
  again : Option Nat

/-- What `loop` is in one pass. -/
def Loop.value (loop : Loop) (depth i : Nat) : Value :=
  let previous := if i = 0 then .undefined else (loop.items[i - 1]?).getD .undefined
  .loop i loop.items.length depth previous ((loop.items[i + 1]?).getD .undefined) loop.memory
    loop.again

/-- Bind the names of one pass. -/
def Loop.enter (fuel : Nat) (s : Setting) (loop : Loop) (item : Value × Nat) : Run Unit := do
  bindName "loop" (loop.value s.depth item.2)
  bindTarget fuel s loop.target item.1

/-- The text of one pass. -/
def Loop.pass (fuel : Nat) (s : Setting) (loop : Loop) (item : Value × Nat) : Run String := do
  loop.enter fuel s item
  execAll fuel { s with depth := s.depth + 1 } loop.body

/-- Run a loop over the items it has. -/
def Loop.runAll (fuel : Nat) (s : Setting) (loop : Loop) : Run String :=
  withFrame (texts (loop.pass fuel s) loop.items.zipIdx)

theorem repeatOver_succ (target : Target) (condition : Option Expr) (body otherwise : List Stmt)
    (items : List Value) (again : Option Nat) :
    repeatOver (fuel + 1) s target condition body otherwise items again = (do
      let items ← chosen fuel s target items condition
      if items.isEmpty then execAll fuel s otherwise
      else Loop.runAll fuel s ⟨target, body, items, ← newPlace [], again⟩) := by
  have hpasses : ∀ (loop : Loop) items, texts (loop.pass fuel s) items
      = forIn items "" fun item out => do
        let text ← loop.pass fuel s item
        return .yield (out ++ text) := by
    intro loop items
    rw [forIn_eq_texts]
    simp
  rw [repeatOver.eq_def]
  simp only [Loop.runAll, hpasses]
  cases condition <;> simp [chosen, Loop.pass, Loop.enter, Loop.value]

theorem exec_forEach (target : Target) (items : Expr) (condition : Option Expr) (recursive : Bool)
    (body otherwise : List Stmt) :
    exec (fuel + 2) s (.forEach target items condition recursive body otherwise) = (do
      let (items, again) ← openLoop fuel s target items condition recursive body otherwise
      if items.isEmpty then execAll fuel s otherwise
      else Loop.runAll fuel s ⟨target, body, items, ← newPlace [], again⟩) := by
  rw [exec]
  simp only [repeatOver_succ]
  cases recursive <;> simp [openLoop]

section
variable {target : Target} {items : Expr} {condition : Option Expr} {recursive : Bool}
variable {body otherwise : List Stmt} {found : List Value} {again : Option Nat} {text : String}

theorem Gives.forEach
    (h : Gives (openLoop fuel s target items condition recursive body otherwise) m
      (found, again) m') (hfound : found ≠ [])
    (hpasses : Gives (texts (Loop.pass fuel s ⟨target, body, found, m'.places.length, again⟩)
      found.zipIdx) { m' with places := m'.places ++ [[]], frames := [] :: m'.frames } text m'') :
    Gives (exec (fuel + 2) s (.forEach target items condition recursive body otherwise)) m text
      { m'' with frames := m''.frames.tail } := by
  rw [exec_forEach]
  refine h.bind ?_
  simp only [List.isEmpty_iff, hfound, if_false]
  have hplace : Gives (newPlace []) m' m'.places.length
      { m' with places := m'.places ++ [[]] } := rfl
  exact hplace.bind (Gives.framed hpasses)

theorem Gives.forNone
    (h : Gives (openLoop fuel s target items condition recursive body otherwise) m ([], again) m')
    (hotherwise : Gives (execAll fuel s otherwise) m' text m'') :
    Gives (exec (fuel + 2) s (.forEach target items condition recursive body otherwise)) m text
      m'' := by
  rw [exec_forEach]
  exact h.bind hotherwise

end

end Watchpost.Template.Run
