/-
Histories of the cache: any calls, one after the other, on a cache that is empty at first. As long as
fingerprints tell the sources of a history apart, every call answers what compiling would answer, so
nobody can see that there is a cache.

The invariant is that every entry was compiled from a source of the history and has its fingerprint.
Calls keep it whatever the fingerprints are; they matter only where an entry is used again.
-/
import Mathlib.Tactic.Common
import PageTemplate.Proofs.Fields
import PageTemplate.Render.Cache

namespace PageTemplate.Cache

/-- A source to be compiled, and the name of the output. -/
structure Request where
  source : Text
  buffer : String
  deriving DecidableEq

namespace Request

def mark (q : Request) : UInt64 := fingerprint q.source q.buffer

/-- The statements that are asked for, without a cache. -/
def compile (q : Request) : Except TemplateError (List Statement) :=
  Statement.ofLines q.buffer q.source.lines

/-- Different requests have different fingerprints. -/
def Apart (requests : List Request) : Prop :=
  ∀ p ∈ requests, ∀ q ∈ requests, p.mark = q.mark → p = q

instance (requests : List Request) : Decidable (Apart requests) :=
  inferInstanceAs (Decidable (∀ p ∈ requests, ∀ q ∈ requests, p.mark = q.mark → p = q))

end Request

/-- A call on the cache. -/
inductive Call where
  | statements (name : String) (request : Request)
  | forget (name : String)

namespace Call

/-- The cache after a call. -/
def after (cache : Cache) : Call → Cache
  | .statements name q => (cache.statements name q.source q.buffer).2
  | .forget name => cache.forget name

def request? : Call → Option Request
  | .statements _ q => some q
  | .forget _ => none

end Call

/-- The cache after calls on one that was empty. -/
def history (calls : List Call) : Cache := calls.foldl Call.after []

/-- The requests in calls. -/
def requests (calls : List Call) : List Request := calls.filterMap Call.request?

/-! ## One call -/

section OneCall

variable {cache : Cache} {name : String} {q : Request}

/-- An entry that has the fingerprint of the request is used again. -/
theorem statements_of_mark {entry : Compiled} (hget : Fields.get? name cache = some entry)
    (hmark : entry.fingerprint = q.mark) :
    cache.statements name q.source q.buffer = (.ok entry.statements, cache) := by
  unfold Cache.statements
  rw [hget]
  exact if_pos hmark

/-- Without such an entry the source is compiled. -/
theorem statements_of_not_mark
    (h : ∀ entry, Fields.get? name cache = some entry → entry.fingerprint ≠ q.mark) :
    cache.statements name q.source q.buffer =
      match q.compile with
      | .ok statements => (.ok statements, Fields.insert name ⟨q.mark, statements⟩ cache)
      | .error e => (.error e, cache) := by
  unfold Cache.statements
  cases hget : Fields.get? name cache with
  | none => rfl
  | some entry => exact if_neg (h entry hget)

/-- A call for statements uses the entry of the name, or compiles and keeps what it got, or fails as
compiling does. -/
theorem statements_cases (cache : Cache) (name : String) (q : Request) :
    (∃ entry, Fields.get? name cache = some entry ∧ entry.fingerprint = q.mark ∧
      cache.statements name q.source q.buffer = (.ok entry.statements, cache)) ∨
    (∃ statements, q.compile = .ok statements ∧
      cache.statements name q.source q.buffer =
        (.ok statements, Fields.insert name ⟨q.mark, statements⟩ cache)) ∨
    ∃ e, q.compile = .error e ∧ cache.statements name q.source q.buffer = (.error e, cache) := by
  by_cases hmark : ∃ entry, Fields.get? name cache = some entry ∧ entry.fingerprint = q.mark
  · obtain ⟨entry, hget, hmark⟩ := hmark
    exact .inl ⟨entry, hget, hmark, statements_of_mark hget hmark⟩
  · have hcompiled := statements_of_not_mark fun entry hget heq => hmark ⟨entry, hget, heq⟩
    cases hcompile : q.compile with
    | ok statements =>
      rw [hcompile] at hcompiled
      exact .inr (.inl ⟨statements, rfl, hcompiled⟩)
    | error e =>
      rw [hcompile] at hcompiled
      exact .inr (.inr ⟨e, rfl, hcompiled⟩)

/-- A call that fails leaves the cache as it was. -/
theorem statements_of_error {e : TemplateError}
    (h : (cache.statements name q.source q.buffer).1 = .error e) :
    (cache.statements name q.source q.buffer).2 = cache := by
  rcases statements_cases cache name q with ⟨_, -, -, heq⟩ | ⟨_, -, heq⟩ | ⟨_, -, heq⟩
  · rw [heq]
  · rw [heq] at h; cases h
  · rw [heq]

/-- After a call that does not fail, its answer is kept under the name. -/
theorem get?_of_statements_eq_ok {statements : List Statement}
    (h : (cache.statements name q.source q.buffer).1 = .ok statements) :
    Fields.get? name (cache.statements name q.source q.buffer).2 = some ⟨q.mark, statements⟩ := by
  rcases statements_cases cache name q with ⟨entry, hget, hmark, heq⟩ | ⟨_, -, heq⟩ | ⟨_, -, heq⟩
  · rw [heq] at h ⊢
    cases h
    rw [hget, ← hmark]
  · rw [heq] at h ⊢
    cases h
    exact Fields.get?_insert_self name _ cache
  · rw [heq] at h; cases h

/-- A call leaves the entries of other names as they are. -/
theorem get?_statements_of_ne {m : String} (hne : m ≠ name) :
    Fields.get? m (cache.statements name q.source q.buffer).2 = Fields.get? m cache := by
  rcases statements_cases cache name q with ⟨_, -, -, heq⟩ | ⟨_, -, heq⟩ | ⟨_, -, heq⟩ <;> rw [heq]
  exact Fields.get?_insert_of_ne hne _ cache

/-- What a call answers depends on the entry of its name only. -/
theorem statements_congr {cache' : Cache} (h : Fields.get? name cache = Fields.get? name cache') :
    (cache.statements name q.source q.buffer).1 = (cache'.statements name q.source q.buffer).1 := by
  unfold Cache.statements
  dsimp only
  rw [h]
  cases Fields.get? name cache' with
  | none => cases Statement.ofLines q.buffer q.source.lines <;> rfl
  | some entry =>
    dsimp only
    split
    · rfl
    · cases Statement.ofLines q.buffer q.source.lines <;> rfl

end OneCall

/-- Every entry was compiled from one of the requests, and has its fingerprint. -/
def CompiledFrom (requests : List Request) (cache : Cache) : Prop :=
  ∀ name entry, (name, entry) ∈ cache →
    ∃ q ∈ requests, entry.fingerprint = q.mark ∧ q.compile = .ok entry.statements

/-- A call keeps the entries compiled from requests, if its own is one of them. -/
theorem CompiledFrom.after {requests : List Request} {cache : Cache} (h : CompiledFrom requests cache)
    {call : Call} (hcall : ∀ q, call.request? = some q → q ∈ requests) :
    CompiledFrom requests (call.after cache) := by
  cases call with
  | forget name =>
    intro m entry hmem
    exact h m entry (Fields.mem_of_mem_erase hmem)
  | statements name q =>
    show CompiledFrom requests (cache.statements name q.source q.buffer).2
    rcases statements_cases cache name q with ⟨_, -, -, heq⟩ | ⟨_, hcompile, heq⟩ | ⟨_, -, heq⟩
    · rw [heq]; exact h
    · rw [heq]
      intro m entry hmem
      rcases Fields.mem_insert hmem with hmem | ⟨-, rfl⟩
      · exact h m entry hmem
      · exact ⟨q, hcall q rfl, rfl, hcompile⟩
    · rw [heq]; exact h

/-! ## Whole histories -/

theorem CompiledFrom.foldl {requests : List Request} {cache : Cache} (h : CompiledFrom requests cache)
    {calls : List Call} (hcalls : ∀ q ∈ Cache.requests calls, q ∈ requests) :
    CompiledFrom requests (calls.foldl Call.after cache) := by
  induction calls generalizing cache with
  | nil => exact h
  | cons call calls ih =>
    refine ih (h.after fun q hq => hcalls q ?_) fun q hq => hcalls q ?_
    · exact List.mem_filterMap.2 ⟨call, List.mem_cons_self, hq⟩
    · obtain ⟨call', hcall', hrequest⟩ := List.mem_filterMap.1 hq
      exact List.mem_filterMap.2 ⟨call', List.mem_cons_of_mem _ hcall', hrequest⟩

theorem compiledFrom_history {requests : List Request} {calls : List Call}
    (hcalls : ∀ q ∈ Cache.requests calls, q ∈ requests) : CompiledFrom requests (history calls) := by
  refine CompiledFrom.foldl (fun name entry hmem => ?_) hcalls
  cases hmem

/-- A history that goes on. -/
theorem history_append (calls more : List Call) :
    history (calls ++ more) = more.foldl Call.after (history calls) :=
  List.foldl_append

/-- Whatever the fingerprints are, the statements of an answer were compiled from some source. -/
theorem exists_compile_of_statements {calls : List Call} {name : String} {q : Request}
    {statements : List Statement} (h : ((history calls).statements name q.source q.buffer).1 = .ok statements) :
    ∃ p : Request, p.compile = .ok statements := by
  have hfrom : CompiledFrom (requests calls) (history calls) := compiledFrom_history fun _ => id
  rcases statements_cases (history calls) name q with ⟨entry, hget, -, heq⟩ | ⟨_, hcompile, heq⟩ | ⟨e, -, heq⟩
  · rw [heq] at h
    cases h
    obtain ⟨p, -, -, hcompile⟩ := hfrom name entry (Fields.mem_of_get? hget)
    exact ⟨p, hcompile⟩
  · rw [heq] at h
    cases h
    exact ⟨q, hcompile⟩
  · rw [heq] at h
    cases h

/-- Where fingerprints tell its sources apart, an entry that is used again is the right one. -/
theorem statements_of_compiledFrom {requests : List Request} {cache : Cache}
    (h : CompiledFrom requests cache) (hapart : Request.Apart requests) {q : Request}
    (hq : q ∈ requests) (name : String) : (cache.statements name q.source q.buffer).1 = q.compile := by
  rcases statements_cases cache name q with
    ⟨entry, hget, hmark, heq⟩ | ⟨_, hcompile, heq⟩ | ⟨_, hcompile, heq⟩
  · obtain ⟨p, hp, hpmark, hpcompile⟩ := h name entry (Fields.mem_of_get? hget)
    have hpq : p = q := hapart p hp q hq (hpmark.symm.trans hmark)
    rw [heq, ← hpq, hpcompile]
  · rw [heq, hcompile]
  · rw [heq, hcompile]

/-- After any history, a request that its fingerprint tells from those of the history is answered as if
there were no cache. -/
theorem statements_history {calls : List Call} {q : Request}
    (hapart : Request.Apart (q :: requests calls)) (name : String) :
    ((history calls).statements name q.source q.buffer).1 = q.compile :=
  statements_of_compiledFrom (compiledFrom_history fun _ => List.mem_cons_of_mem q) hapart
    List.mem_cons_self name

/-- The cache was filled by calls from whose requests the fingerprint tells `q` apart. -/
def Distinguishes (cache : Cache) (q : Request) : Prop :=
  ∃ calls, cache = history calls ∧ Request.Apart (q :: requests calls)

theorem Distinguishes.statements_eq {cache : Cache} {q : Request} (h : cache.Distinguishes q)
    (name : String) : (cache.statements name q.source q.buffer).1 = q.compile := by
  obtain ⟨calls, rfl, hapart⟩ := h
  exact statements_history hapart name

/-- Nothing is mistaken for a request where no other one was made. -/
theorem distinguishes_nil (q : Request) : Distinguishes [] q := by
  refine ⟨[], rfl, fun p hp p' hp' _ => ?_⟩
  rw [List.mem_singleton.1 hp, List.mem_singleton.1 hp']

/-- Nobody can see that there is a cache: if fingerprints tell the requests of a history apart, every
call for statements in it is answered by what compiling gives, be it statements or an error. A call
that fails leaves the cache as it was; after one that does not, the statements are kept under the
name, with their fingerprint. -/
theorem history_answers_as_compiled (calls : List Call) (hapart : Request.Apart (requests calls)) :
    ∀ before name q rest, calls = before ++ .statements name q :: rest →
      ((history before).statements name q.source q.buffer).1 = q.compile ∧
      (∀ e, q.compile = .error e →
        ((history before).statements name q.source q.buffer).2 = history before) ∧
      ∀ statements, q.compile = .ok statements →
        Fields.get? name ((history before).statements name q.source q.buffer).2 =
          some ⟨q.mark, statements⟩ := by
  rintro before name q rest rfl
  have hq : q ∈ requests (before ++ .statements name q :: rest) := by
    simp [requests, Call.request?]
  have hfrom : CompiledFrom (requests (before ++ .statements name q :: rest)) (history before) := by
    refine compiledFrom_history fun p hp => ?_
    simp only [requests, List.filterMap_append, List.mem_append]
    exact .inl hp
  have hanswer := statements_of_compiledFrom hfrom hapart hq name
  refine ⟨hanswer, fun e he => ?_, fun statements hstatements => ?_⟩
  · exact statements_of_error (hanswer.trans he)
  · exact get?_of_statements_eq_ok (hanswer.trans hstatements)

/-- Two sources share a name, one of them does not compile, and the buffer changes. -/
theorem history_answers_as_compiled_of_shared_name :
    let page : Request := ⟨['a', '\n', 'b'], "output"⟩
    let broken : Request := ⟨"\x7b% if %\x7d".toList, "output"⟩
    let renamed : Request := ⟨['a', '\n', 'b'], "lines"⟩
    let calls : List Call := [.statements "p" page, .statements "p" broken, .forget "q",
      .statements "p" renamed, .statements "p" page]
    Request.Apart (requests calls) ∧
      ((history (calls.take 4)).statements "p" page.source page.buffer).1 = page.compile ∧
      ((history (calls.take 1)).statements "p" broken.source broken.buffer).2 = history (calls.take 1) := by
  intro page broken renamed calls
  have hapart : Request.Apart (requests calls) := by decide +kernel
  have hlast := history_answers_as_compiled calls hapart (calls.take 4) "p" page [] rfl
  have hbroken := history_answers_as_compiled calls hapart (calls.take 1) "p" broken (calls.drop 2) rfl
  exact ⟨hapart, hlast.1, hbroken.2.1 _ rfl⟩

end PageTemplate.Cache
