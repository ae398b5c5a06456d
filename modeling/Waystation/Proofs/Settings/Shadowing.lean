import Waystation.Settings
import Mathlib.Data.Option.Basic
/-!
Settings are a stack of maps that shadow each other. The buckets stay where they were when they were
opened, so whatever has been written and removed, a lookup finds what the first bucket with the key
holds, a scope stands for the first bucket that is listed for it, and a write changes one key of one
bucket.
-/
namespace Waystation

namespace Broker

variable {b b' : Broker} {bucket key : String} {value : Option Bytes}

theorem bucket?_changeBucket (b : Broker) (name other : String) (f : Bucket → Bucket) :
    (b.changeBucket name f).bucket? other
      = if other = name then (b.bucket? other).map f else b.bucket? other := by
  simp only [bucket?, changeBucket]
  induction b.buckets with
  | nil => simp
  | cons e es ih =>
    obtain ⟨k, bucket⟩ := e
    by_cases hk : k = name
    · subst hk
      by_cases ho : other = k
      · simp [ho]
      · simpa [List.lookup_cons, beq_eq_false_iff_ne.2 ho, ho] using ih
    · by_cases ho : other = k
      · simp [ho, hk]
      · simpa [List.lookup_cons, beq_eq_false_iff_ne.2 ho, hk] using ih

/-- Does another broker hold something else under one key of one bucket, but nothing else changed? -/
structure ChangedAt (b : Broker) (bucket key : String) (value : Option Bytes) (b' : Broker) :
    Prop where
  values : ∀ other k, b'.getKey other k
    = if other = bucket ∧ k = key then value else b.getKey other k
  rest : b' = { b with buckets := b'.buckets }

theorem ChangedAt.here (h : b.ChangedAt bucket key value b') : b'.getKey bucket key = value := by
  rw [h.values, if_pos ⟨rfl, rfl⟩]

theorem ChangedAt.elsewhere (h : b.ChangedAt bucket key value b') {other : String}
    (ho : other ≠ bucket) (k : String) : b'.getKey other k = b.getKey other k := by
  rw [h.values, if_neg fun hboth => ho hboth.1]

theorem changedAt_putKey (h : (b.bucket? bucket).isSome) (key : String) (value : Bytes) :
    b.ChangedAt bucket key (some value) (b.putKey bucket key value) where
  values other k := by
    obtain ⟨store, hstore⟩ := Option.isSome_iff_exists.1 h
    simp only [getKey, putKey, bucket?_changeBucket]
    by_cases ho : other = bucket
    · subst ho
      simp [hstore]
    · simp [ho]
  rest := rfl

theorem changedAt_eraseKey (b : Broker) (bucket key : String) :
    b.ChangedAt bucket key none (b.eraseKey bucket key) where
  values other k := by
    simp only [getKey, eraseKey, bucket?_changeBucket]
    by_cases ho : other = bucket
    · subst ho
      cases b.bucket? other <;> simp
    · simp [ho]
  rest := rfl

/-! What is found in a broker depends on nothing but its buckets. -/

theorem bucket?_congr (h : b.buckets = b'.buckets) (bucket : String) :
    b.bucket? bucket = b'.bucket? bucket := by
  rw [bucket?, h, bucket?]

theorem getKey_congr (h : b.buckets = b'.buckets) (bucket key : String) :
    b.getKey bucket key = b'.getKey bucket key := by
  rw [getKey, bucket?_congr h, getKey]

end Broker

namespace Settings

/-- The answer to a lookup that ends at a value. -/
def shown (key : String) (scope : Scope) (value : Bytes) : Except ScopedConfigError (Option String) :=
  match value.toText? with
  | some text => .ok (some text)
  | none => .error (.notText key scope)

/-- Are settings those of buckets that are all there, in the order of lookups? -/
structure Over (s : Settings) (pairs : List (Scope × String)) (b : Broker) : Prop where
  stores : s.stores = pairs.map fun p => { scope := p.1, bucket := p.2 }
  there : ∀ p ∈ pairs, (b.bucket? p.2).isSome

variable {s : Settings} {pairs : List (Scope × String)} {b b' : Broker} {key : String}

theorem over_of_connect {n : Network} {connection : Nat} (hfaults : n.faults.store = none)
    (h : connect n connection pairs = .ok s) : s.Over pairs n.broker := by
  induction pairs generalizing s with
  | nil =>
    obtain rfl := Except.ok.inj h
    exact ⟨rfl, fun p hp => absurd hp List.not_mem_nil⟩
  | cons p pairs ih =>
    rw [connect] at h
    split at h
    next => cases h
    next hopen =>
      split at h
      next => cases h
      next rest hrest =>
        obtain rfl := Except.ok.inj h
        obtain ⟨hstores, hthere⟩ := ih hrest
        refine ⟨by rw [hfaults, hstores]; rfl, List.forall_mem_cons.2 ⟨?_, hthere⟩⟩
        rw [Broker.openBucket, Broker.whenOpen] at hopen
        cases hbucket : n.broker.bucket? p.2 with
        | some bucket => rfl
        | none =>
          rw [hbucket] at hopen
          split at hopen <;> cases hopen

theorem Over.congr (h : s.Over pairs b) (hbuckets : b.buckets = b'.buckets) : s.Over pairs b' where
  stores := h.stores
  there p hp := by
    rw [← Broker.bucket?_congr hbuckets]
    exact h.there p hp

/-- What one bucket answers. -/
theorem get_store (scope : Scope) (bucket key : String) (b : Broker) :
    Store.get { scope, bucket } key b = (b.getKey bucket key).elim (.ok none) (shown key scope) := by
  rw [Store.get]
  cases b.getKey bucket key <;> rfl

theorem store_eq (h : s.Over pairs b) (scope : Scope) :
    s.store scope = match pairs.find? (·.1 = scope) with
      | none => .error (.scopeNotConfigured scope)
      | some p => .ok { scope, bucket := p.2 } := by
  rw [store, h.stores, List.find?_map]
  have hcomp : (fun st : Store => decide (st.scope = scope)) ∘
      (fun p : Scope × String => { scope := p.1, bucket := p.2 }) = fun p => decide (p.1 = scope) := rfl
  rw [hcomp]
  cases hfind : pairs.find? fun p => decide (p.1 = scope) with
  | none => rfl
  | some p =>
    have hscope : p.1 = scope := by simpa using List.find?_some hfind
    simp [hscope]

theorem get_scope (h : s.Over pairs b) (key : String) (scope : Scope) :
    s.get key (some scope) b = match pairs.find? (·.1 = scope) with
      | none => .error (.scopeNotConfigured scope)
      | some p => (b.getKey p.2 key).elim (.ok none) (shown key scope) := by
  rw [get, store_eq h]
  cases pairs.find? (·.1 = scope) with
  | none => rfl
  | some p => exact get_store scope p.2 key b

theorem shown_ne_none (key : String) (scope : Scope) (value : Bytes) :
    shown key scope value ≠ .ok none := by
  rw [shown]
  split <;> simp

/-- The first bucket with the key answers a lookup in all scopes. -/
theorem get_first (h : s.Over pairs b) {before after : List (Scope × String)} {scope : Scope}
    {bucket : String} {value : Bytes} (hpairs : pairs = before ++ (scope, bucket) :: after)
    (hbefore : ∀ p ∈ before, b.getKey p.2 key = none) (hvalue : b.getKey bucket key = some value) :
    s.get key none b = shown key scope value := by
  rw [get, h.stores, hpairs]
  clear hpairs
  induction before with
  | nil =>
    rw [List.nil_append, List.map_cons, search, get_store, hvalue, Option.elim_some, shown]
    cases value.toText? <;> rfl
  | cons p before ih =>
    obtain ⟨hp, hrest⟩ := List.forall_mem_cons.1 hbefore
    rw [List.cons_append, List.map_cons, search, get_store, hp, Option.elim_none]
    exact ih hrest

/-- A key of a bucket is found in all scopes if no other bucket comes first with it. -/
theorem get_behind (h : s.Over pairs b) {before after : List (Scope × String)} {scope : Scope}
    {bucket : String} {value : Bytes} (hpairs : pairs = before ++ (scope, bucket) :: after)
    (hbefore : ∀ p ∈ before, p.2 ≠ bucket → b.getKey p.2 key = none)
    (hvalue : b.getKey bucket key = some value) :
    ∃ scope', s.get key none b = shown key scope' value := by
  induction before generalizing s pairs with
  | nil => exact ⟨scope, get_first h hpairs (fun p hp => nomatch hp) hvalue⟩
  | cons p before ih =>
    obtain ⟨hp, hrest⟩ := List.forall_mem_cons.1 hbefore
    by_cases hshared : p.2 = bucket
    · have hfirst : pairs = [] ++ (p.1, bucket) :: (before ++ (scope, bucket) :: after) := by
        rw [hpairs, ← hshared]
        rfl
      exact ⟨p.1, get_first h hfirst (fun q hq => nomatch hq) hvalue⟩
    · -- the first bucket does not have the key, so those behind it answer
      have hbehind : ({ stores := s.stores.tail } : Settings).Over (before ++ (scope, bucket) :: after) b := by
        refine ⟨by rw [h.stores, hpairs]; rfl, fun q hq => h.there q ?_⟩
        rw [hpairs]
        exact List.mem_cons_of_mem p hq
      obtain ⟨scope', hget⟩ := ih hbehind rfl hrest
      refine ⟨scope', ?_⟩
      rw [← hget, get, get, h.stores, hpairs]
      simp only [List.cons_append, List.map_cons, List.tail_cons, search, get_store, hp hshared,
        Option.elim_none]

theorem exists_first (b : Broker) (pairs : List (Scope × String)) (key : String) :
    (∀ p ∈ pairs, b.getKey p.2 key = none) ∨ ∃ before p after value, pairs = before ++ p :: after
      ∧ (∀ q ∈ before, b.getKey q.2 key = none) ∧ b.getKey p.2 key = some value := by
  induction pairs with
  | nil => exact .inl fun p hp => absurd hp List.not_mem_nil
  | cons p pairs ih =>
    cases hp : b.getKey p.2 key with
    | some value =>
      exact .inr ⟨[], p, pairs, value, rfl, fun q hq => absurd hq List.not_mem_nil, hp⟩
    | none =>
      rcases ih with hnone | ⟨before, q, after, value, rfl, hbefore, hvalue⟩
      · exact .inl (List.forall_mem_cons.2 ⟨hp, hnone⟩)
      · exact .inr ⟨p :: before, q, after, value, rfl, List.forall_mem_cons.2 ⟨hp, hbefore⟩, hvalue⟩

/-- A lookup in all scopes finds nothing exactly if no bucket has the key. -/
theorem get_none_iff (h : s.Over pairs b) (key : String) :
    s.get key none b = .ok none ↔ ∀ p ∈ pairs, b.getKey p.2 key = none := by
  rcases exists_first b pairs key with hnone | ⟨before, p, after, value, hpairs, hbefore, hvalue⟩
  · refine ⟨fun _ => hnone, fun hall => ?_⟩
    rw [get, h.stores]
    clear h hnone
    induction pairs with
    | nil => rfl
    | cons p pairs ih =>
      obtain ⟨hp, hrest⟩ := List.forall_mem_cons.1 hall
      rw [List.map_cons, search, get_store, hp, Option.elim_none]
      exact ih hrest
  · rw [get_first h hpairs hbefore hvalue]
    refine ⟨fun heq => absurd heq (shown_ne_none key p.1 value), fun hall => ?_⟩
    have hp := hall p (hpairs ▸ List.mem_append_right before List.mem_cons_self)
    rw [hp] at hvalue
    cases hvalue

/-- A lookup in all scopes fails exactly if the value in the first bucket with the key is no text; it
tells the scope of that bucket. -/
theorem get_error_iff (h : s.Over pairs b) (key : String) (e : ScopedConfigError) :
    s.get key none b = .error e ↔ ∃ before scope bucket after value,
      pairs = before ++ (scope, bucket) :: after ∧ (∀ p ∈ before, b.getKey p.2 key = none)
      ∧ b.getKey bucket key = some value ∧ value.toText? = none ∧ e = .notText key scope := by
  constructor
  · intro herror
    rcases exists_first b pairs key with hnone | ⟨before, p, after, value, hpairs, hbefore, hvalue⟩
    · rw [(get_none_iff h key).2 hnone] at herror
      cases herror
    · rw [get_first h hpairs hbefore hvalue, shown] at herror
      split at herror
      next => cases herror
      next htext =>
        obtain rfl := Except.error.inj herror
        exact ⟨before, p.1, p.2, after, value, hpairs, hbefore, hvalue, htext, rfl⟩
  · rintro ⟨before, scope, bucket, after, value, hpairs, hbefore, hvalue, htext, rfl⟩
    rw [get_first h hpairs hbefore hvalue, shown, htext]

theorem Over.changed (h : s.Over pairs b) {name : String} {f : Bucket → Bucket} :
    s.Over pairs (b.changeBucket name f) where
  stores := h.stores
  there p hp := by
    rw [Broker.bucket?_changeBucket]
    split
    · rw [Option.isSome_map]
      exact h.there p hp
    · exact h.there p hp

theorem Over.putKey (h : s.Over pairs b) (bucket key : String) (value : Bytes) :
    s.Over pairs (b.putKey bucket key value) :=
  h.changed

theorem Over.eraseKey (h : s.Over pairs b) (bucket key : String) :
    s.Over pairs (b.eraseKey bucket key) :=
  h.changed

/-- What a write or a removal in a scope, by default that of the process, does. -/
theorem set_eq (h : s.Over pairs b) (key : String) (value : Bytes) (scope : Option Scope) :
    s.set key value scope b = match pairs.find? (·.1 = scope.getD .process) with
      | none => (.error (.scopeNotConfigured (scope.getD .process)), b)
      | some p => (.ok (), b.putKey p.2 key value) := by
  rw [set, store_eq h]
  cases pairs.find? (·.1 = scope.getD .process) <;> rfl

/-- What a write leaves in the buckets depends on nothing but the buckets. -/
theorem buckets_set (s : Settings) (key : String) (value : Bytes) (scope : Option Scope)
    (h : b.buckets = b'.buckets) :
    (s.set key value scope b).2.buckets = (s.set key value scope b').2.buckets := by
  simp only [set]
  split
  · exact h
  · split
    · exact h
    · simp only [Broker.putKey, Broker.changeBucket, h]

theorem delete_eq (h : s.Over pairs b) (key : String) (scope : Option Scope) :
    s.delete key scope b = match pairs.find? (·.1 = scope.getD .process) with
      | none => (.error (.scopeNotConfigured (scope.getD .process)), b)
      | some p => (.ok (b.getKey p.2 key).isSome, b.eraseKey p.2 key) := by
  rw [delete, store_eq h]
  cases pairs.find? (·.1 = scope.getD .process) <;> rfl

/-- A lookup of a key, or a change under it. -/
inductive Access
  | get (key : String) (scope : Option Scope)
  | set (key : String) (value : Bytes) (scope : Option Scope)
  | delete (key : String) (scope : Option Scope)
  deriving DecidableEq, Repr

/-- The broker that an access leaves behind. -/
def after (s : Settings) (b : Broker) : Access → Broker
  | .get _ _ => b
  | .set key value scope => (s.set key value scope b).2
  | .delete key scope => (s.delete key scope b).2

def run (s : Settings) (b : Broker) (accesses : List Access) : Broker := accesses.foldl s.after b

theorem over_after (h : s.Over pairs b) (a : Access) : s.Over pairs (s.after b a) := by
  cases a with
  | get _ _ => exact h
  | set key value scope =>
    rw [after, set_eq h]
    split
    · exact h
    · exact h.putKey _ key value
  | delete key scope =>
    rw [after, delete_eq h]
    split
    · exact h
    · exact h.eraseKey _ key

theorem over_run (h : s.Over pairs b) (accesses : List Access) : s.Over pairs (s.run b accesses) := by
  induction accesses generalizing b with
  | nil => exact h
  | cons a accesses ih => exact ih (over_after h a)

/-- Once a key is gone from a bucket, the others answer. -/
theorem getKey_removed {bucket : String} (hchanged : b.ChangedAt bucket key none b')
    (pairs : List (Scope × String)) :
    (∀ p ∈ pairs, b'.getKey p.2 key = none)
      ↔ ∀ p ∈ pairs, p.2 ≠ bucket → b.getKey p.2 key = none := by
  refine forall₂_congr fun p _ => ?_
  by_cases hp : p.2 = bucket
  · rw [hp, hchanged.here]
    simp
  · rw [hchanged.elsewhere hp]
    simp [hp]

/-- Over every run of lookups and changes, a lookup in all scopes is answered by the first bucket that
has the key, a lookup in one scope by the first bucket listed for it, and it fails where there is none.
A change takes place under the one key of the first bucket of its scope, by default that of the
process: what is set is found there, and what is removed uncovers what the first other bucket has. A
change that fails changes nothing. -/
theorem run_accesses {b₀ : Broker} {connection : Nat} {pairs : List (Scope × String)} {s : Settings}
    (h : connect { broker := b₀ } connection pairs = .ok s) (accesses : List Access) :
    let b := s.run b₀ accesses
    (∀ key, s.get key none b = .ok none ↔ ∀ p ∈ pairs, b.getKey p.2 key = none)
    ∧ (∀ key before scope bucket after value, pairs = before ++ (scope, bucket) :: after →
        (∀ p ∈ before, b.getKey p.2 key = none) → b.getKey bucket key = some value →
        s.get key none b = shown key scope value)
    ∧ (∀ key e, s.get key none b = .error e ↔ ∃ before scope bucket after value,
        pairs = before ++ (scope, bucket) :: after ∧ (∀ p ∈ before, b.getKey p.2 key = none)
        ∧ b.getKey bucket key = some value ∧ value.toText? = none ∧ e = .notText key scope)
    ∧ (∀ key scope, s.get key (some scope) b = match pairs.find? (·.1 = scope) with
        | none => .error (.scopeNotConfigured scope)
        | some p => (b.getKey p.2 key).elim (.ok none) (shown key scope))
    ∧ (∀ key value scope, match pairs.find? (·.1 = scope.getD .process) with
        | none => s.set key value scope b = (.error (.scopeNotConfigured (scope.getD .process)), b)
        | some p => ∃ b', s.set key value scope b = (.ok (), b')
          ∧ b.ChangedAt p.2 key (some value) b'
          ∧ s.get key (some (scope.getD .process)) b' = shown key (scope.getD .process) value)
    ∧ ∀ key scope, match pairs.find? (·.1 = scope.getD .process) with
        | none => s.delete key scope b = (.error (.scopeNotConfigured (scope.getD .process)), b)
        | some p => ∃ b', s.delete key scope b = (.ok (b.getKey p.2 key).isSome, b')
          ∧ b.ChangedAt p.2 key none b'
          ∧ (s.get key none b' = .ok none ↔ ∀ q ∈ pairs, q.2 ≠ p.2 → b.getKey q.2 key = none)
          ∧ ∀ before scope' bucket after value, pairs = before ++ (scope', bucket) :: after →
            bucket ≠ p.2 → (∀ q ∈ before, q.2 ≠ p.2 → b.getKey q.2 key = none) →
            b.getKey bucket key = some value → s.get key none b' = shown key scope' value := by
  intro b
  have hover : s.Over pairs b := over_run (over_of_connect rfl h) accesses
  refine ⟨get_none_iff hover, fun key before scope bucket after value hpairs hbefore hvalue =>
    get_first hover hpairs hbefore hvalue, get_error_iff hover,
    get_scope hover, fun key value scope => ?_, fun key scope => ?_⟩
  · have hset := set_eq hover key value scope
    cases hfind : pairs.find? (·.1 = scope.getD .process) with
    | none => rwa [hfind] at hset
    | some p =>
      rw [hfind] at hset
      have hchanged := Broker.changedAt_putKey
        (hover.there p (List.mem_of_find?_eq_some hfind)) key value
      refine ⟨_, hset, hchanged, ?_⟩
      rw [get_scope (hover.putKey p.2 key value), hfind]
      dsimp only
      rw [hchanged.here, Option.elim_some]
  · have hdelete := delete_eq hover key scope
    cases hfind : pairs.find? (·.1 = scope.getD .process) with
    | none => rwa [hfind] at hdelete
    | some p =>
      rw [hfind] at hdelete
      have hchanged := Broker.changedAt_eraseKey b p.2 key
      have hover' := hover.eraseKey p.2 key
      refine ⟨_, hdelete, hchanged, ?_, ?_⟩
      · rw [get_none_iff hover']
        exact getKey_removed hchanged pairs
      · intro before scope' bucket after value hpairs hbucket hbefore hvalue
        exact get_first hover' hpairs ((getKey_removed hchanged before).2 hbefore)
          ((hchanged.elsewhere hbucket key).trans hvalue)

/-- Two scopes of one bucket and a third of another: to remove a key in the widest uncovers nothing in
the first, which shares its bucket. -/
theorem run_accesses_shared :
    let b₀ := ((Broker.withBucket {} "wide").withBucket "narrow").connect "url" |>.2
    let pairs := [(Scope.process, "narrow"), (.workflow, "wide"), (.global, "narrow")]
    let s : Settings := { stores := pairs.map fun p => { scope := p.1, bucket := p.2 } }
    let b := s.run b₀ [.set "k" [1] none, .set "k" [2] (some .workflow)]
    connect { broker := b₀ } 1 pairs = .ok s
    ∧ ∃ b', s.delete "k" (some .global) b = (.ok true, b')
      ∧ b.ChangedAt "narrow" "k" none b' ∧ s.get "k" none b' = shown "k" .workflow [2] := by
  intro b₀ pairs s b
  have hconnect : connect { broker := b₀ } 1 pairs = .ok s := rfl
  obtain ⟨-, -, -, -, -, hdelete⟩ := run_accesses hconnect [.set "k" [1] none, .set "k" [2] (some .workflow)]
  obtain ⟨b', hanswer, hchanged, -, huncovers⟩ := hdelete "k" (some .global)
  exact ⟨hconnect, b', hanswer, hchanged, huncovers [(.process, "narrow")] .workflow "wide" [(.global, "narrow")]
    [2] rfl (by decide) (by decide) (by decide)⟩

end Settings
end Waystation
