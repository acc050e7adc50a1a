import ConsentGate.Client
import ConsentGate.Event
import ConsentGate.Principal
import ConsentGate.Request
import ConsentGate.Token

namespace ConsentGate

inductive Call where
  | client (clientId : String) (answer : Except AuthError (Option Client))
  | sessionState (subjectId clientId origin : String) (answer : Except AuthError String)
  | code (request : Request) (principal : Principal) (answer : Except AuthError String)
  | token (request : Request) (principal : Principal) (answer : Except AuthError Token)

inductive Act where
  | called (c : Call)
  | published (e : Event)

structure Traced (α : Type) where
  acts : List Act
  value : α

namespace Traced

variable {α β : Type}

instance : Monad Traced where
  pure a := ⟨[], a⟩
  bind x f := ⟨x.acts ++ (f x.value).acts, (f x.value).value⟩

def act (a : Act) : Traced Unit := ⟨[a], ()⟩

def calls (x : Traced α) : List Call :=
  x.acts.filterMap fun
    | .called c => some c
    | .published _ => none

def events (x : Traced α) : List Event :=
  x.acts.filterMap fun
    | .called _ => none
    | .published e => some e

@[simp] theorem acts_pure (a : α) : (pure a : Traced α).acts = [] := rfl

@[simp] theorem value_pure (a : α) : (pure a : Traced α).value = a := rfl

@[simp] theorem acts_bind (x : Traced α) (f : α → Traced β) :
    (x >>= f).acts = x.acts ++ (f x.value).acts := rfl

@[simp] theorem value_bind (x : Traced α) (f : α → Traced β) :
    (x >>= f).value = (f x.value).value := rfl

@[simp] theorem acts_map (x : Traced α) (f : α → β) : (f <$> x).acts = x.acts := by
  simp [Functor.map]

@[simp] theorem value_map (x : Traced α) (f : α → β) : (f <$> x).value = f x.value := rfl

@[simp] theorem acts_act (a : Act) : (act a).acts = [a] := rfl

end Traced

/-- What the endpoint asks of others while it answers one request. It asks each of them at most once,
so that an answer is a function of the question alone. -/
structure Collaborators where
  findClient : String → Except AuthError (Option Client)
  sessionState : (subjectId clientId origin : String) → Except AuthError String
  issueCode : Request → Principal → Except AuthError String
  issueToken : Request → Principal → Except AuthError Token

namespace Collaborators

def client (c : Collaborators) (id : String) : Traced (Except AuthError (Option Client)) :=
  ⟨[.called (.client id (c.findClient id))], c.findClient id⟩

def state (c : Collaborators) (subjectId clientId origin : String) :
    Traced (Except AuthError String) :=
  let answer := c.sessionState subjectId clientId origin
  ⟨[.called (.sessionState subjectId clientId origin answer)], answer⟩

def code (c : Collaborators) (r : Request) (p : Principal) : Traced (Except AuthError String) :=
  ⟨[.called (.code r p (c.issueCode r p))], c.issueCode r p⟩

def token (c : Collaborators) (r : Request) (p : Principal) : Traced (Except AuthError Token) :=
  ⟨[.called (.token r p (c.issueToken r p))], c.issueToken r p⟩

end Collaborators

end ConsentGate
