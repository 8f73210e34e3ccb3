namespace SandboxTasks

/-- A program over requests `Op`, each with its type of answers. -/
inductive Program (Op : Type) (Answer : Op → Type) (α : Type) where
  | done (a : α)
  | call (op : Op) (next : Answer op → Program Op Answer α)

namespace Program

variable {Op : Type} {Answer : Op → Type} {α β : Type}

def bind : Program Op Answer α → (α → Program Op Answer β) → Program Op Answer β
  | .done a, f => f a
  | .call op next, f => .call op fun answer => (next answer).bind f

instance : Monad (Program Op Answer) where
  pure := .done
  bind := bind

def ask (op : Op) : Program Op Answer (Answer op) := .call op .done

theorem bind_done (p : Program Op Answer α) : p.bind .done = p := by
  induction p with
  | done a => rfl
  | call op next ih => simp only [bind, ih]

theorem bind_assoc {γ : Type} (p : Program Op Answer α) (f : α → Program Op Answer β) (g : β → Program Op Answer γ) :
    (p.bind f).bind g = p.bind fun a => (f a).bind g := by
  induction p with
  | done a => rfl
  | call op next ih => simp only [bind, ih]

instance : LawfulMonad (Program Op Answer) := LawfulMonad.mk' _ bind_done (fun _ _ => rfl) bind_assoc

/-- The program that answers each request of the first by a program of its own. -/
def interpret {Op' : Type} {Answer' : Op' → Type} (serve : (op : Op) → Program Op' Answer' (Answer op)) :
    Program Op Answer α → Program Op' Answer' α
  | .done a => .done a
  | .call op next => (serve op).bind fun answer => (next answer).interpret serve

def run {σ : Type} (answer : (op : Op) → σ → Answer op × σ) : Program Op Answer α → σ → α × σ
  | .done a, s => (a, s)
  | .call op next, s => let (a, s) := answer op s; (next a).run answer s

theorem run_pure {σ : Type} {answer : (op : Op) → σ → Answer op × σ} (a : α) (s : σ) :
    (pure a : Program Op Answer α).run answer s = (a, s) := rfl

theorem run_bind {σ : Type} {answer : (op : Op) → σ → Answer op × σ} (p : Program Op Answer α)
    (f : α → Program Op Answer β) (s : σ) :
    (p >>= f).run answer s = (f (p.run answer s).1).run answer (p.run answer s).2 := by
  induction p generalizing s with
  | done a => rfl
  | call op next ih => exact ih (answer op s).1 (answer op s).2

/-- How a run in surroundings that may stay silent ended: with a result, or waiting for an answer that never
came. -/
inductive Outcome (Op : Type) (α : Type) where
  | ended (a : α)
  | waiting (op : Op)

def attempt {σ : Type} (answer : (op : Op) → σ → Option (Answer op) × σ) :
    Program Op Answer α → σ → Outcome Op α × σ
  | .done a, s => (.ended a, s)
  | .call op next, s =>
    match answer op s with
    | (some a, s) => (next a).attempt answer s
    | (none, s) => (.waiting op, s)

end Program

end SandboxTasks
