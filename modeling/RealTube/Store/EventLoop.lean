import RealTube.Store.Alike
import RealTube.Store.Steps
import Mathlib.Data.Option.Basic

/-!
# Programs on an event loop

An asynchronous function runs from one `await` to the next without being interrupted, and other
functions run in between. What it has still to do is a **program**: an access to the store, a
request to the outside, or several **jobs** side by side, whose results come together in the order
in which they are pushed (`Promise.all`). An **action** is a program that may throw. A `Loop` has a
store, programs in progress, and a log of all requests that were sent and of all values that
programs ended with.

Two programs are **alike** if they do related things to related stores, send related requests, go on
with related programs from related answers, and end with related values (`Program.Alike`). The rules
follow the way programs are built. Two loops that start alike, and get events that are alike, have
logs that are alike (`alike_run`): whatever the order of the events, an observer who cannot tell
related things apart cannot tell the two loops apart. With a relation that only looks at one side it
is a rule for what every program keeps.
-/

open Steps

namespace EventLoop

/-- What programs work with. -/
structure Signature where
  Store : Type
  Request : Type
  Answer : Type
  /-- What jobs push. -/
  Item : Type
  /-- What jobs throw. -/
  Error : Type

variable {σ : Signature} {ι R R' R'' : Type}

/-! ### Programs -/

/-- One of several functions that go on side by side. -/
inductive Job (σ : Signature) : Type where
  | done
  | throw (x : σ.Error)
  /-- An access to the store, and what follows on what was seen there. -/
  | access (write : σ.Store → σ.Store) (next : σ.Store → Job σ)
  | ask (q : σ.Request) (next : σ.Answer → Job σ)
  | push (b : σ.Item) (next : Job σ)

/-- A function that ends with a value. -/
inductive Program (σ : Signature) (R : Type) : Type where
  | done (r : R)
  | access (write : σ.Store → σ.Store) (next : σ.Store → Program σ R)
  | ask (q : σ.Request) (next : σ.Answer → Program σ R)
  /-- Jobs in progress, and what they have pushed so far. -/
  | gather (jobs : List (Job σ)) (items : List σ.Item)
    (next : Except σ.Error (List σ.Item) → Program σ R)

namespace Job

/-- A job pushes what it can before it waits. -/
def settle : Job σ → List σ.Item × Job σ
  | push b next => (b :: next.settle.1, next.settle.2)
  | j => ([], j)

/-- The error of a job. -/
def thrown : Job σ → Option σ.Error
  | throw x => some x
  | _ => none

/-- A job has ended. -/
def isDone : Job σ → Bool
  | done => true
  | _ => false

/-- What comes of jobs: the first error, or all items once all have ended. -/
def joined (jobs : List (Job σ)) (items : List σ.Item) :
    Option (Except σ.Error (List σ.Item)) :=
  match jobs.findSome? thrown with
  | some x => some (.error x)
  | none => if jobs.all isDone then some (.ok items) else none

end Job

namespace Program

/-- Sequencing. -/
def bind : Program σ R → (R → Program σ R') → Program σ R'
  | done r, f => f r
  | access w k, f => access w fun s ↦ (k s).bind f
  | ask q k, f => ask q fun a ↦ (k a).bind f
  | gather jobs items k, f => gather jobs items fun x ↦ (k x).bind f

instance : Monad (Program σ) where
  pure := done
  bind := bind

/-- `Promise.all`. Once a job has thrown, what the others do has no effect any more: it is meant for
jobs which then do nothing but push. -/
def all (jobs : List (Job σ)) : Program σ (Except σ.Error (List σ.Item)) :=
  let jobs' := jobs.map fun j ↦ j.settle.2
  let items := jobs.flatMap fun j ↦ j.settle.1
  match Job.joined jobs' items with
  | none => gather jobs' items done
  | some x => done x

end Program

/-! ### The loop -/

/-- What is logged: the program `i` sends a request, or ends with a value. -/
inductive Entry (σ : Signature) (ι R : Type) where
  | request (i : ι) (q : σ.Request)
  | response (i : ι) (r : R)

/-- What a job sends when it comes to a point where it waits. -/
def Job.emits (i : ι) : Job σ → List (Entry σ ι R)
  | ask q _ => [.request i q]
  | _ => []

/-- What a program sends. -/
def Program.emits (i : ι) : Program σ R → List (Entry σ ι R)
  | done r => [.response i r]
  | access _ _ => []
  | ask q _ => [.request i q]
  | gather jobs _ _ => jobs.flatMap (Job.emits i)

/-- What happens. -/
inductive Event (σ : Signature) (ι R : Type) where
  | start (i : ι) (p : Program σ R)
  /-- The access of a program. -/
  | access (i : ι)
  | answer (i : ι) (a : σ.Answer)
  /-- The access of a job of a program. -/
  | jobAccess (i : ι) (n : ℕ)
  | jobAnswer (i : ι) (n : ℕ) (a : σ.Answer)
  /-- Something else changes the store. -/
  | outside (f : σ.Store → σ.Store)
  /-- All programs in progress are ended, and part of the store is lost. -/
  | restart (f : σ.Store → σ.Store)

/-- The loop. -/
structure Loop (σ : Signature) (ι R : Type) where
  store : σ.Store
  programs : ι → Option (Program σ R)
  log : List (Entry σ ι R)

namespace Loop

/-- Nothing has happened. -/
def init (s : σ.Store) : Loop σ ι R := ⟨s, fun _ ↦ none, []⟩

variable [DecidableEq ι]

/-- A program has come to another point, and sent something. -/
def put (t : Loop σ ι R) (i : ι) (p : Program σ R) (sent : List (Entry σ ι R)) : Loop σ ι R where
  store := t.store
  programs := fun j ↦ if j = i then some p else t.programs j
  log := t.log ++ sent

/-- A program goes on with this. -/
def resume (t : Loop σ ι R) (i : ι) (p : Program σ R) : Loop σ ι R := t.put i p (p.emits i)

/-- One of the jobs of a program goes on with this. -/
def resumeJob (t : Loop σ ι R) (i : ι) (jobs : List (Job σ)) (items : List σ.Item)
    (next : Except σ.Error (List σ.Item) → Program σ R) (n : ℕ) (j : Job σ) : Loop σ ι R :=
  let jobs' := jobs.set n j.settle.2
  let items' := items ++ j.settle.1
  match Job.joined jobs' items' with
  | none => t.put i (.gather jobs' items' next) (j.settle.2.emits i)
  | some x => t.resume i (next x)

/-- The state after an event. -/
def step (t : Loop σ ι R) : Event σ ι R → Option (Loop σ ι R)
  | .start i p =>
    match t.programs i with
    | none => some (t.resume i p)
    | some _ => none
  | .access i =>
    match t.programs i with
    | some (.access w k) => some (resume { t with store := w t.store } i (k t.store))
    | _ => none
  | .answer i a =>
    match t.programs i with
    | some (.ask _ k) => some (t.resume i (k a))
    | _ => none
  | .jobAccess i n =>
    match t.programs i with
    | some (.gather jobs items next) =>
      match jobs[n]? with
      | some (.access w k) =>
        some (resumeJob { t with store := w t.store } i jobs items next n (k t.store))
      | _ => none
    | _ => none
  | .jobAnswer i n a =>
    match t.programs i with
    | some (.gather jobs items next) =>
      match jobs[n]? with
      | some (.ask _ k) => some (t.resumeJob i jobs items next n (k a))
      | _ => none
    | _ => none
  | .outside f => some { t with store := f t.store }
  | .restart f => some { t with store := f t.store, programs := fun _ ↦ none }

end Loop

/-! ### Alike -/

/-- What cannot be told apart. -/
structure Relation (σ : Signature) where
  store : σ.Store → σ.Store → Prop
  request : σ.Request → σ.Request → Prop
  answer : σ.Answer → σ.Answer → Prop
  item : σ.Item → σ.Item → Prop
  error : σ.Error → σ.Error → Prop

variable {l : Relation σ} {P : R → R' → Prop}

/-- The results of jobs are alike. -/
abbrev Relation.Results (l : Relation σ) : Except σ.Error (List σ.Item) →
    Except σ.Error (List σ.Item) → Prop := AlikeResults l.error (List.Forall₂ l.item)

/-- Two jobs are alike. -/
inductive Job.Alike (l : Relation σ) : Job σ → Job σ → Prop
  | done : Alike l .done .done
  | throw {x x' : σ.Error} (h : l.error x x') : Alike l (.throw x) (.throw x')
  | access {w w' : σ.Store → σ.Store} {k k' : σ.Store → Job σ}
      (hw : ∀ s s', l.store s s' → l.store (w s) (w' s'))
      (hk : ∀ s s', l.store s s' → Alike l (k s) (k' s')) : Alike l (.access w k) (.access w' k')
  | ask {q q' : σ.Request} {k k' : σ.Answer → Job σ} (hq : l.request q q')
      (hk : ∀ a a', l.answer a a' → Alike l (k a) (k' a')) : Alike l (.ask q k) (.ask q' k')
  | push {b b' : σ.Item} {k k' : Job σ} (hb : l.item b b') (hk : Alike l k k') :
      Alike l (.push b k) (.push b' k')

/-- **Two programs are alike**, and end with values in `P`. -/
inductive Program.Alike (l : Relation σ) (P : R → R' → Prop) :
    Program σ R → Program σ R' → Prop
  | done {r : R} {r' : R'} (h : P r r') : Alike l P (.done r) (.done r')
  | access {w w' : σ.Store → σ.Store} {k : σ.Store → Program σ R} {k' : σ.Store → Program σ R'}
      (hw : ∀ s s', l.store s s' → l.store (w s) (w' s'))
      (hk : ∀ s s', l.store s s' → Alike l P (k s) (k' s')) :
      Alike l P (.access w k) (.access w' k')
  | ask {q q' : σ.Request} {k : σ.Answer → Program σ R} {k' : σ.Answer → Program σ R'}
      (hq : l.request q q') (hk : ∀ a a', l.answer a a' → Alike l P (k a) (k' a')) :
      Alike l P (.ask q k) (.ask q' k')
  | gather {jobs jobs' : List (Job σ)} {items items' : List σ.Item}
      {k : Except σ.Error (List σ.Item) → Program σ R}
      {k' : Except σ.Error (List σ.Item) → Program σ R'}
      (hjobs : List.Forall₂ (Job.Alike l) jobs jobs') (hitems : List.Forall₂ l.item items items')
      (hk : ∀ x x', l.Results x x' → Alike l P (k x) (k' x')) :
      Alike l P (.gather jobs items k) (.gather jobs' items' k')

/-- Both are there, and related, or neither is. -/
theorem eq_none_or_exists_of_rel {α β : Type} {r : α → β → Prop} {o : Option α} {o' : Option β}
    (h : Option.Rel r o o') :
    (o = none ∧ o' = none) ∨ ∃ a b, r a b ∧ o = some a ∧ o' = some b := by
  cases h with
  | none => exact Or.inl ⟨rfl, rfl⟩
  | some h => exact Or.inr ⟨_, _, h, rfl, rfl⟩

namespace Job.Alike

variable {j j' : Job σ} {jobs jobs' : List (Job σ)} {items items' : List σ.Item}

theorem settle (h : Job.Alike l j j') : List.Forall₂ l.item j.settle.1 j'.settle.1 ∧
    Job.Alike l j.settle.2 j'.settle.2 := by
  induction h with
  | push hb _ ih => exact ⟨.cons hb ih.1, ih.2⟩
  | done => exact ⟨.nil, .done⟩
  | throw hx => exact ⟨.nil, .throw hx⟩
  | access hw hk => exact ⟨.nil, .access hw hk⟩
  | ask hq hk => exact ⟨.nil, .ask hq hk⟩

theorem thrown (h : Job.Alike l j j') : Option.Rel l.error j.thrown j'.thrown := by
  cases h with
  | throw hx => exact .some hx
  | done | access | ask | push => exact .none

theorem isDone (h : Job.Alike l j j') : j.isDone = j'.isDone := by
  cases h <;> rfl

/-- **What comes of them** is alike. -/
theorem joined (hjobs : List.Forall₂ (Job.Alike l) jobs jobs')
    (hitems : List.Forall₂ l.item items items') :
    Option.Rel l.Results (Job.joined jobs items) (Job.joined jobs' items') := by
  have hthrown : Option.Rel l.error (jobs.findSome? Job.thrown) (jobs'.findSome? Job.thrown) := by
    induction hjobs with
    | nil => exact .none
    | cons h _ ih =>
      rw [List.findSome?_cons, List.findSome?_cons]
      obtain ⟨hj, hj'⟩ | ⟨x, x', hx, hj, hj'⟩ := eq_none_or_exists_of_rel h.thrown
      · rw [hj, hj']
        exact ih
      · rw [hj, hj']
        exact .some hx
  have hdone : jobs.all Job.isDone = jobs'.all Job.isDone := by
    clear hthrown
    induction hjobs with
    | nil => rfl
    | cons h _ ih => rw [List.all_cons, List.all_cons, h.isDone, ih]
  rw [Job.joined, Job.joined, hdone]
  obtain ⟨ho, ho'⟩ | ⟨x, x', hx, ho, ho'⟩ := eq_none_or_exists_of_rel hthrown
  · rw [ho, ho']
    dsimp only
    split_ifs
    · exact .some (.ok hitems)
    · exact .none
  · rw [ho, ho']
    exact .some (.error hx)

end Job.Alike

namespace Program

/-- **Sequences.** -/
theorem Alike.bind {R₁ R₁' : Type} {P' : R₁ → R₁' → Prop} {p : Program σ R} {p' : Program σ R'}
    {f : R → Program σ R₁} {f' : R' → Program σ R₁'} (h : Alike l P p p')
    (hf : ∀ r r', P r r' → Alike l P' (f r) (f' r')) : Alike l P' (p >>= f) (p' >>= f') := by
  induction h with
  | done hr => exact hf _ _ hr
  | access hw _ ih => exact .access hw ih
  | ask hq _ ih => exact .ask hq ih
  | gather hjobs hitems _ ih => exact .gather hjobs hitems ih

theorem Alike.mono {P' : R → R' → Prop} {p : Program σ R} {p' : Program σ R'}
    (h : Alike l P p p') (hP : ∀ r r', P r r' → P' r r') : Alike l P' p p' := by
  induction h with
  | done hr => exact .done (hP _ _ hr)
  | access hw _ ih => exact .access hw ih
  | ask hq _ ih => exact .ask hq ih
  | gather hjobs hitems _ ih => exact .gather hjobs hitems ih

/-- **Side by side.** -/
theorem alike_all {jobs jobs' : List (Job σ)} (h : List.Forall₂ (Job.Alike l) jobs jobs') :
    Alike l l.Results (all jobs) (all jobs') := by
  have hjobs : List.Forall₂ (Job.Alike l) (jobs.map fun j ↦ j.settle.2)
      (jobs'.map fun j ↦ j.settle.2) :=
    List.forall₂_map_left_iff.2 (List.forall₂_map_right_iff.2 (h.imp fun _ _ h ↦ h.settle.2))
  have hitems : List.Forall₂ l.item (jobs.flatMap fun j ↦ j.settle.1)
      (jobs'.flatMap fun j ↦ j.settle.1) := by
    clear hjobs
    induction h with
    | nil => exact .nil
    | cons h _ ih =>
      rw [List.flatMap_cons, List.flatMap_cons]
      exact List.rel_append h.settle.1 ih
  rw [all, all]
  obtain ⟨ho, ho'⟩ | ⟨x, x', hx, ho, ho'⟩ :=
    eq_none_or_exists_of_rel (Job.Alike.joined hjobs hitems)
  · rw [ho, ho']
    exact .gather hjobs hitems fun _ _ hx ↦ .done hx
  · rw [ho, ho']
    exact .done hx

end Program

/-! ### Actions -/

/-- A program that may throw. -/
abbrev Action (σ : Signature) (R : Type) : Type := ExceptT σ.Error (Program σ) R

namespace Action

/-- An access that may throw. -/
def access (w : σ.Store → σ.Store) (f : σ.Store → Except σ.Error R) : Action σ R :=
  ExceptT.mk (.access w fun s ↦ .done (f s))

/-- A request whose answer may have it throw. -/
def ask (q : σ.Request) (f : σ.Answer → Except σ.Error R) : Action σ R :=
  ExceptT.mk (.ask q fun a ↦ .done (f a))

/-- `try … finally …`. -/
def andFinally (p : Action σ R) (w : σ.Store → σ.Store) : Action σ R :=
  ExceptT.mk (p.run.bind fun x ↦ .access w fun _ ↦ .done x)

/-- `Promise.all`. -/
def all (jobs : List (Job σ)) : Action σ (List σ.Item) := ExceptT.mk (.all jobs)

/-- **Two actions are alike**: they throw related errors, or end with values in `P`. -/
def Alike (l : Relation σ) (P : R → R' → Prop) (p : Action σ R) (p' : Action σ R') : Prop :=
  Program.Alike l (AlikeResults l.error P) p.run p'.run

variable {R₁ R₁' : Type} {P' : R₁ → R₁' → Prop} {p : Action σ R} {p' : Action σ R'}

theorem alike_pure {r : R} {r' : R'} (h : P r r') : Alike l P (pure r) (pure r') := .done (.ok h)

theorem alike_access {w w' : σ.Store → σ.Store} {f : σ.Store → Except σ.Error R}
    {f' : σ.Store → Except σ.Error R'} (hw : ∀ s s', l.store s s' → l.store (w s) (w' s'))
    (hf : ∀ s s', l.store s s' → AlikeResults l.error P (f s) (f' s')) :
    Alike l P (access w f) (access w' f') :=
  .access hw fun s s' h ↦ .done (hf s s' h)

theorem alike_ask {q q' : σ.Request} {f : σ.Answer → Except σ.Error R}
    {f' : σ.Answer → Except σ.Error R'} (hq : l.request q q')
    (hf : ∀ a a', l.answer a a' → AlikeResults l.error P (f a) (f' a')) :
    Alike l P (ask q f) (ask q' f') :=
  .ask hq fun a a' h ↦ .done (hf a a' h)

/-- **Sequences.** -/
theorem Alike.bind {f : R → Action σ R₁} {f' : R' → Action σ R₁'} (h : Alike l P p p')
    (hf : ∀ r r', P r r' → Alike l P' (f r) (f' r')) : Alike l P' (p >>= f) (p' >>= f') := by
  refine Program.Alike.bind h fun x x' hx ↦ ?_
  cases hx with
  | error he => exact .done (.error he)
  | ok hr => exact hf _ _ hr

/-- **`try … catch …`.** -/
theorem Alike.tryCatch {f : σ.Error → Action σ R} {f' : σ.Error → Action σ R'} (h : Alike l P p p')
    (hf : ∀ e e', l.error e e' → Alike l P (f e) (f' e')) :
    Alike l P (tryCatch p f) (tryCatch p' f') := by
  refine Program.Alike.bind h fun x x' hx ↦ ?_
  cases hx with
  | error he => exact hf _ _ he
  | ok hr => exact .done (.ok hr)

theorem Alike.andFinally {w w' : σ.Store → σ.Store} (h : Alike l P p p')
    (hw : ∀ s s', l.store s s' → l.store (w s) (w' s')) :
    Alike l P (andFinally p w) (andFinally p' w') :=
  Program.Alike.bind h fun _ _ hx ↦ .access hw fun _ _ _ ↦ .done hx

theorem Alike.mono {P₁ : R → R' → Prop} (h : Alike l P p p') (hP : ∀ r r', P r r' → P₁ r r') :
    Alike l P₁ p p' :=
  Program.Alike.mono h fun x x' hx ↦ by
    cases hx with
    | error he => exact .error he
    | ok hr => exact .ok (hP _ _ hr)

theorem alike_all {jobs jobs' : List (Job σ)} (h : List.Forall₂ (Job.Alike l) jobs jobs') :
    Alike l (List.Forall₂ l.item) (all jobs) (all jobs') :=
  Program.alike_all h

end Action

/-! ### Alike loops -/

variable {Q : ι → R → R → Prop}

/-- Entries of the log are alike. What a program ends with is seen by who has started it. -/
inductive Entry.Alike (l : Relation σ) (Q : ι → R → R → Prop) :
    Entry σ ι R → Entry σ ι R → Prop
  | request (i : ι) {q q' : σ.Request} (h : l.request q q') :
      Alike l Q (.request i q) (.request i q')
  | response (i : ι) {r r' : R} (h : Q i r r') : Alike l Q (.response i r) (.response i r')

/-- Events are alike. -/
inductive Event.Alike (l : Relation σ) (Q : ι → R → R → Prop) :
    Event σ ι R → Event σ ι R → Prop
  | start (i : ι) {p p' : Program σ R} (h : Program.Alike l (Q i) p p') :
      Alike l Q (.start i p) (.start i p')
  | access (i : ι) : Alike l Q (.access i) (.access i)
  | answer (i : ι) {a a' : σ.Answer} (h : l.answer a a') : Alike l Q (.answer i a) (.answer i a')
  | jobAccess (i : ι) (n : ℕ) : Alike l Q (.jobAccess i n) (.jobAccess i n)
  | jobAnswer (i : ι) (n : ℕ) {a a' : σ.Answer} (h : l.answer a a') :
      Alike l Q (.jobAnswer i n a) (.jobAnswer i n a')
  | outside {f f' : σ.Store → σ.Store} (h : ∀ s s', l.store s s' → l.store (f s) (f' s')) :
      Alike l Q (.outside f) (.outside f')
  | restart {f f' : σ.Store → σ.Store} (h : ∀ s s', l.store s s' → l.store (f s) (f' s')) :
      Alike l Q (.restart f) (.restart f')

/-- Loops are alike. -/
structure Loop.Alike (l : Relation σ) (Q : ι → R → R → Prop) (t t' : Loop σ ι R) : Prop where
  store : l.store t.store t'.store
  programs : ∀ i, Option.Rel (Program.Alike l (Q i)) (t.programs i) (t'.programs i)
  log : List.Forall₂ (Entry.Alike l Q) t.log t'.log

theorem Job.Alike.emits {j j' : Job σ} (h : Job.Alike l j j') (i : ι) :
    List.Forall₂ (Entry.Alike l Q) (j.emits i) (j'.emits i) := by
  cases h with
  | ask hq => exact .cons (.request i hq) .nil
  | done | throw | access | push => exact .nil

theorem Program.Alike.emits {p p' : Program σ R} {i : ι} (h : Program.Alike l (Q i) p p') :
    List.Forall₂ (Entry.Alike l Q) (p.emits i) (p'.emits i) := by
  cases h with
  | done hr => exact .cons (.response i hr) .nil
  | access => exact .nil
  | ask hq => exact .cons (.request i hq) .nil
  | gather hjobs =>
    rw [Program.emits, Program.emits]
    induction hjobs with
    | nil => exact .nil
    | cons hj _ ih =>
      rw [List.flatMap_cons, List.flatMap_cons]
      exact List.rel_append (hj.emits i) ih

namespace Loop

variable {t t' t₁ : Loop σ ι R} {i : ι}

theorem alike_init {s s' : σ.Store} (h : l.store s s') : Alike l Q (init s) (init s') :=
  ⟨h, fun _ ↦ .none, .nil⟩

theorem Alike.setStore (h : Alike l Q t t') {s s' : σ.Store} (hs : l.store s s') :
    Alike l Q { t with store := s } { t' with store := s' } :=
  { h with store := hs }

variable [DecidableEq ι]

theorem Alike.put (h : Alike l Q t t') {p p' : Program σ R} (hp : Program.Alike l (Q i) p p')
    {sent sent' : List (Entry σ ι R)} (hsent : List.Forall₂ (Entry.Alike l Q) sent sent') :
    Alike l Q (t.put i p sent) (t'.put i p' sent') := by
  refine ⟨h.store, fun j ↦ ?_, List.rel_append h.log hsent⟩
  show Option.Rel _ (if j = i then _ else _) (if j = i then _ else _)
  split_ifs with hj
  · subst hj
    exact .some hp
  · exact h.programs j

theorem Alike.resume (h : Alike l Q t t') {p p' : Program σ R}
    (hp : Program.Alike l (Q i) p p') : Alike l Q (t.resume i p) (t'.resume i p') :=
  h.put hp hp.emits

theorem Alike.resumeJob (h : Alike l Q t t') {jobs jobs' : List (Job σ)}
    {items items' : List σ.Item} {k k' : Except σ.Error (List σ.Item) → Program σ R}
    (hjobs : List.Forall₂ (Job.Alike l) jobs jobs') (hitems : List.Forall₂ l.item items items')
    (hk : ∀ x x', l.Results x x' → Program.Alike l (Q i) (k x) (k' x')) {j j' : Job σ}
    (hj : Job.Alike l j j') (n : ℕ) :
    Alike l Q (t.resumeJob i jobs items k n j) (t'.resumeJob i jobs' items' k' n j') := by
  obtain ⟨hpushed, hsettled⟩ := hj.settle
  have hset : List.Forall₂ (Job.Alike l) (jobs.set n j.settle.2) (jobs'.set n j'.settle.2) := by
    clear hk
    induction hjobs generalizing n with
    | nil => exact .nil
    | cons h₁ hrest ih =>
      cases n with
      | zero => exact .cons hsettled hrest
      | succ n => exact .cons h₁ (ih n)
  have hall : List.Forall₂ l.item (items ++ j.settle.1) (items' ++ j'.settle.1) :=
    List.rel_append hitems hpushed
  rw [Loop.resumeJob, Loop.resumeJob]
  obtain ⟨ho, ho'⟩ | ⟨x, x', hx, ho, ho'⟩ :=
    eq_none_or_exists_of_rel (Job.Alike.joined hset hall)
  · rw [ho, ho']
    exact h.put (.gather hset hall hk) (hsettled.emits i)
  · rw [ho, ho']
    exact h.resume (hk _ _ hx)

/-- The job with a number. -/
theorem exists_getElem?_eq {jobs jobs' : List (Job σ)}
    (h : List.Forall₂ (Job.Alike l) jobs jobs') {n : ℕ} {j : Job σ} (hn : jobs[n]? = some j) :
    ∃ j', jobs'[n]? = some j' ∧ Job.Alike l j j' := by
  induction h generalizing n with
  | nil => cases hn
  | cons h _ ih =>
    cases n with
    | zero =>
      obtain rfl := Option.some.inj hn
      exact ⟨_, rfl, h⟩
    | succ n => exact ih hn

omit [DecidableEq ι] in
/-- A program in progress here is one there. -/
theorem Alike.exists_program (h : Alike l Q t t') {p : Program σ R} (hp : t.programs i = some p) :
    ∃ p', t'.programs i = some p' ∧ Program.Alike l (Q i) p p' := by
  obtain ⟨ho, -⟩ | ⟨p₁, p', halike, ho, ho'⟩ := eq_none_or_exists_of_rel (h.programs i)
  · cases hp.symm.trans ho
  · obtain rfl := Option.some.inj (hp.symm.trans ho)
    exact ⟨p', ho', halike⟩

omit [DecidableEq ι] in
/-- An entry of the log here has one there. -/
theorem Alike.exists_entry (h : Alike l Q t t') {x : Entry σ ι R} (hx : x ∈ t.log) :
    ∃ x' ∈ t'.log, Entry.Alike l Q x x' := by
  have hlog := h.log
  generalize t.log = log, t'.log = log' at hlog hx
  induction hlog with
  | nil => cases hx
  | cons hxx' _ ih =>
    obtain rfl | hx := List.mem_cons.1 hx
    · exact ⟨_, List.mem_cons_self, hxx'⟩
    · obtain ⟨x', hx', halike⟩ := ih hx
      exact ⟨x', List.mem_cons_of_mem _ hx', halike⟩

/-! What an event needs, and what it does. -/

theorem programs_of_start {p : Program σ R} (hs : t.step (.start i p) = some t₁) :
    t.programs i = none ∧ t₁ = t.resume i p := by
  rw [Loop.step] at hs
  split at hs
  · exact ⟨‹_›, (Option.some.inj hs).symm⟩
  · cases hs

theorem exists_of_access (hs : t.step (.access i) = some t₁) : ∃ w k,
    t.programs i = some (.access w k) ∧
      t₁ = resume { t with store := w t.store } i (k t.store) := by
  rw [Loop.step] at hs
  split at hs
  · exact ⟨_, _, ‹_›, (Option.some.inj hs).symm⟩
  · cases hs

theorem exists_of_answer {a : σ.Answer} (hs : t.step (.answer i a) = some t₁) : ∃ q k,
    t.programs i = some (.ask q k) ∧ t₁ = t.resume i (k a) := by
  rw [Loop.step] at hs
  split at hs
  · exact ⟨_, _, ‹_›, (Option.some.inj hs).symm⟩
  · cases hs

theorem exists_of_jobAccess {n : ℕ} (hs : t.step (.jobAccess i n) = some t₁) :
    ∃ jobs items next w k, t.programs i = some (.gather jobs items next) ∧
      jobs[n]? = some (.access w k) ∧
      t₁ = resumeJob { t with store := w t.store } i jobs items next n (k t.store) := by
  rw [Loop.step] at hs
  split at hs
  · split at hs
    · exact ⟨_, _, _, _, _, ‹_›, ‹_›, (Option.some.inj hs).symm⟩
    · cases hs
  · cases hs

theorem exists_of_jobAnswer {n : ℕ} {a : σ.Answer} (hs : t.step (.jobAnswer i n a) = some t₁) :
    ∃ jobs items next q k, t.programs i = some (.gather jobs items next) ∧
      jobs[n]? = some (.ask q k) ∧ t₁ = t.resumeJob i jobs items next n (k a) := by
  rw [Loop.step] at hs
  split at hs
  · split at hs
    · exact ⟨_, _, _, _, _, ‹_›, ‹_›, (Option.some.inj hs).symm⟩
    · cases hs
  · cases hs

/-- **One event.** -/
theorem Alike.step (h : Alike l Q t t') {e e' : Event σ ι R} (he : Event.Alike l Q e e')
    (hs : t.step e = some t₁) : ∃ t₁', t'.step e' = some t₁' ∧ Alike l Q t₁ t₁' := by
  cases he with
  | start i hp =>
    obtain ⟨hnone, rfl⟩ := programs_of_start hs
    have hnone' : t'.programs i = none := by
      obtain ⟨-, ho'⟩ | ⟨p, -, -, ho, -⟩ := eq_none_or_exists_of_rel (h.programs i)
      · exact ho'
      · cases hnone.symm.trans ho
    exact ⟨_, by rw [Loop.step, hnone'], h.resume hp⟩
  | access i =>
    obtain ⟨w, k, hp, rfl⟩ := exists_of_access hs
    obtain ⟨p', hp', halike⟩ := h.exists_program hp
    cases halike with
    | access hw hk =>
      exact ⟨_, by rw [Loop.step, hp'],
        (h.setStore (hw _ _ h.store)).resume (hk _ _ h.store)⟩
  | answer i ha =>
    obtain ⟨q, k, hp, rfl⟩ := exists_of_answer hs
    obtain ⟨p', hp', halike⟩ := h.exists_program hp
    cases halike with
    | ask hq hk => exact ⟨_, by rw [Loop.step, hp'], h.resume (hk _ _ ha)⟩
  | jobAccess i n =>
    obtain ⟨jobs, items, next, w, k, hp, hn, rfl⟩ := exists_of_jobAccess hs
    obtain ⟨p', hp', halike⟩ := h.exists_program hp
    cases halike with
    | gather hjobs hitems hnext =>
      obtain ⟨j', hn', hj⟩ := exists_getElem?_eq hjobs hn
      cases hj with
      | access hw hk =>
        refine ⟨_, by rw [Loop.step, hp']; dsimp only; rw [hn'], ?_⟩
        exact (h.setStore (hw _ _ h.store)).resumeJob hjobs hitems hnext (hk _ _ h.store) n
  | jobAnswer i n ha =>
    obtain ⟨jobs, items, next, q, k, hp, hn, rfl⟩ := exists_of_jobAnswer hs
    obtain ⟨p', hp', halike⟩ := h.exists_program hp
    cases halike with
    | gather hjobs hitems hnext =>
      obtain ⟨j', hn', hj⟩ := exists_getElem?_eq hjobs hn
      cases hj with
      | ask hq hk =>
        refine ⟨_, by rw [Loop.step, hp']; dsimp only; rw [hn'], ?_⟩
        exact h.resumeJob hjobs hitems hnext (hk _ _ ha) n
  | outside hf =>
    obtain rfl := Option.some.inj hs
    exact ⟨_, rfl, h.setStore (hf _ _ h.store)⟩
  | restart hf =>
    obtain rfl := Option.some.inj hs
    exact ⟨_, rfl, hf _ _ h.store, fun _ ↦ .none, h.log⟩

/-- **Loops that start alike stay alike**, and have logs that are alike. -/
theorem alike_run {es es' : List (Event σ ι R)} {s s' : σ.Store}
    {A : Loop σ ι R → Event σ ι R → Prop} (h : Run Loop.step A (init s) es t)
    (hs : l.store s s') (hes : List.Forall₂ (Event.Alike l Q) es es') :
    ∃ t', Run Loop.step Any (init s') es' t' ∧ Alike l Q t t' :=
  h.sim hes (alike_init hs) fun h he hs ↦ h.step he hs

end Loop

end EventLoop
